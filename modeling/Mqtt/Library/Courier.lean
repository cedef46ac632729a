import Mathlib.Data.List.Induction
import Mqtt.Library.Handshake

/-!
# One identifier, two kinds of exchange

Under one identifier a sender runs one exchange after another, each of one of two
kinds. A note is repeated until a receipt for it is heard. An offer goes through the
exactly-once handshake. A receipt names the identifier and the kind, and not the
message.

The handshake orders what is left of an earlier offer before what belongs to the next,
so offers may follow each other at once. Notes have no such order: a receipt for a
note says that the receiver has it only if, when the note was first sent, no other
note and no receipt for one was on its way.
-/

namespace Mqtt.Library.Courier

open Handshake (Round)

universe u

variable {Msg : Type u}

/-- How far the sender has come with its message. -/
inductive Stage (Msg : Type u) where
  | idle
  | noted (m : Msg)
  | offered (m : Msg)
  | released (m : Msg)

/-- What travels to the receiver. -/
inductive Item (Msg : Type u) where
  | note (m : Msg)
  | offer (m : Msg)
  | release

/-- What travels back. -/
inductive Receipt where
  | note
  | round (which : Round)
  deriving DecidableEq, Repr

/-- Sender, receiver, and the channels between them. -/
structure System (Msg : Type u) where
  stage : Stage Msg
  forward : List (Item Msg)
  back : List Receipt
  holds : Bool
  noted : List Msg
  delivered : List Msg

/-- What the sender sends, once or repeatedly. -/
def Stage.item : Stage Msg → Option (Item Msg)
  | .idle => none
  | .noted m => some (.note m)
  | .offered m => some (.offer m)
  | .released _ => some .release

/-- The message of a note. -/
@[simp] def Item.noted : Item Msg → Option Msg
  | .note m => some m
  | _ => none

/-- The message of an offer. -/
@[simp] def Item.offered : Item Msg → Option Msg
  | .offer m => some m
  | _ => none

/-- What a receipt makes of the sender. -/
def Stage.hear : Stage Msg → Receipt → Stage Msg
  | .noted _, .note => .idle
  | .offered m, .round .first => .released m
  | .released _, .round .second => .idle
  | stage, _ => stage

/-- One move of either party, or of the channels. -/
inductive Step : System Msg → System Msg → Prop where
  | note (s : System Msg) (m : Msg) (idle : s.stage = .idle)
      (clear : (∀ other, .note other ∉ s.forward) ∧ .note ∉ s.back) :
      Step s { s with stage := .noted m, forward := s.forward ++ [.note m] }
  | offer (s : System Msg) (m : Msg) (idle : s.stage = .idle) (fresh : m ∉ s.delivered) :
      Step s { s with stage := .offered m, forward := s.forward ++ [.offer m] }
  | again (s : System Msg) (items : List (Item Msg))
      (copies : ∀ item ∈ items, s.stage.item = some item) :
      Step s { s with forward := s.forward ++ items }
  | hear (s : System Msg) (receipt : Receipt) (rest : List Receipt)
      (next : s.back = receipt :: rest) :
      Step s { s with stage := s.stage.hear receipt, back := rest }
  | record (s : System Msg) (m : Msg) (rest : List (Item Msg))
      (next : s.forward = .note m :: rest) :
      Step s { s with forward := rest, back := s.back ++ [.note], noted := s.noted ++ [m] }
  | deliver (s : System Msg) (m : Msg) (rest : List (Item Msg))
      (next : s.forward = .offer m :: rest) (unknown : s.holds = false) :
      Step s { s with
        forward := rest, back := s.back ++ [.round .first], holds := true
        delivered := s.delivered ++ [m] }
  | recognize (s : System Msg) (m : Msg) (rest : List (Item Msg))
      (next : s.forward = .offer m :: rest) (known : s.holds = true) :
      Step s { s with forward := rest, back := s.back ++ [.round .first] }
  | finish (s : System Msg) (rest : List (Item Msg)) (next : s.forward = .release :: rest) :
      Step s { s with forward := rest, back := s.back ++ [.round .second], holds := false }
  | lose (s : System Msg) : Step s { s with forward := [], back := [] }

/-! ## The handshake within -/

/-- The stage of the handshake: a note is none of it. -/
def Stage.shake : Stage Msg → Handshake.Stage Msg
  | .offered m => .offered m
  | .released m => .released m
  | _ => .idle

/-- What an item is to the handshake. -/
@[simp] def Item.shake : Item Msg → Option (Handshake.Item Msg)
  | .note _ => none
  | .offer m => some (.offer m)
  | .release => some .release

/-- What a receipt is to the handshake. -/
@[simp] def Receipt.shake : Receipt → Option Round
  | .note => none
  | .round which => some which

/-- What is left if the notes are disregarded. -/
def System.handshake (s : System Msg) : Handshake.System Msg where
  stage := s.stage.shake
  forward := s.forward.filterMap Item.shake
  back := s.back.filterMap Receipt.shake
  holds := s.holds
  delivered := s.delivered

/-- The invariant. -/
structure Inv (s : System Msg) : Prop where
  handshake : Handshake.Inv s.handshake
  /-- While a note is out, no other is, and a receipt for a note is one for this. -/
  note : ∀ m, s.stage = .noted m →
    (∀ other, .note other ∈ s.forward → other = m) ∧ (.note ∈ s.back → m ∈ s.noted)
  /-- A receipt for a note is one for some note. -/
  receipt : .note ∈ s.back → s.noted ≠ []

/-! ## Every move keeps the invariant -/

variable {s : System Msg}

/-- Copies of what the sender repeats. -/
theorem handshake_again {items : List (Item Msg)}
    (copies : ∀ item ∈ items, s.stage.item = some item) (inv : Handshake.Inv s.handshake) :
    Handshake.Inv ({ s with forward := s.forward ++ items } : System Msg).handshake := by
  induction items using List.reverseRecOn with
  | nil => simpa using inv
  | append_singleton items item ih =>
    have earlier := ih fun other member => copies other (by simp [member])
    have isItem := copies item (by simp)
    rw [← List.append_assoc]
    cases stage : s.stage with
    | idle => simp [stage, Stage.item] at isItem
    | noted m =>
      obtain rfl : Item.note m = item := by simpa [stage, Stage.item] using isItem
      simpa [System.handshake, stage, List.filterMap_cons] using earlier
    | offered m =>
      obtain rfl : Item.offer m = item := by simpa [stage, Stage.item] using isItem
      have waiting : s.stage.shake = .offered m := by rw [stage]; rfl
      have moved := (Handshake.Step.offerAgain _ m waiting).inv earlier
      simpa [System.handshake, stage] using moved
    | released m =>
      obtain rfl : Item.release = item := by simpa [stage, Stage.item] using isItem
      have waiting : s.stage.shake = .released m := by rw [stage]; rfl
      have moved := (Handshake.Step.releaseAgain _ m waiting).inv earlier
      simpa [System.handshake, stage] using moved

/-- A receipt moves the handshake on, or is one it does not wait for. -/
theorem handshake_hear {receipt : Receipt} {rest : List Receipt} (next : s.back = receipt :: rest)
    (inv : Handshake.Inv s.handshake) :
    Handshake.Inv ({ s with stage := s.stage.hear receipt, back := rest } :
      System Msg).handshake := by
  cases receipt with
  | note =>
    have same : (s.stage.hear .note).shake = s.stage.shake := by cases s.stage <;> rfl
    simpa [System.handshake, next, same, List.filterMap_cons] using inv
  | round which =>
    have heard : s.handshake.back = which :: rest.filterMap Receipt.shake := by
      simp [System.handshake, next]
    cases stage : s.stage with
    | idle | noted m =>
      have idle : s.handshake.stage = .idle := by simp [System.handshake, stage, Stage.shake]
      have moved := (Handshake.Step.ignored s.handshake which _ heard (.inl idle)).inv inv
      simpa [System.handshake, stage, Stage.hear] using moved
    | offered m =>
      have waiting : s.handshake.stage = .offered m := by
        simp [System.handshake, stage, Stage.shake]
      cases which with
      | first =>
        have moved := (Handshake.Step.accepted s.handshake m _ [] waiting heard
          (.inl rfl)).inv inv
        simpa [System.handshake, Stage.hear, Stage.shake] using moved
      | second =>
        have moved := (Handshake.Step.ignored s.handshake .second _ heard
          (.inr ⟨m, waiting, rfl⟩)).inv inv
        simpa [System.handshake, stage, Stage.hear] using moved
    | released m =>
      have waiting : s.handshake.stage = .released m := by
        simp [System.handshake, stage, Stage.shake]
      cases which with
      | first =>
        have moved := (Handshake.Step.acceptedAgain s.handshake m _ [] waiting heard
          (.inl rfl)).inv inv
        simpa [System.handshake, stage, Stage.hear] using moved
      | second => exact (Handshake.Step.completed s.handshake m _ waiting heard).inv inv

theorem Step.handshake {t : System Msg} (step : Step s t) (inv : Handshake.Inv s.handshake) :
    Handshake.Inv t.handshake := by
  cases step with
  | note m idle =>
    simpa [System.handshake, Stage.shake, idle, List.filterMap_cons] using inv
  | offer m idle fresh =>
    have moved := (Handshake.Step.offer s.handshake m
      (by simp [System.handshake, idle, Stage.shake]) fresh).inv inv
    simpa [System.handshake, Stage.shake] using moved
  | again items copies => exact handshake_again copies inv
  | hear receipt rest next => exact handshake_hear next inv
  | record m rest next => simpa [System.handshake, next, List.filterMap_cons] using inv
  | deliver m rest next unknown =>
    have moved := (Handshake.Step.deliver s.handshake m (rest.filterMap Item.shake)
      (by simp [System.handshake, next]) unknown).inv inv
    simpa [System.handshake] using moved
  | recognize m rest next known =>
    have moved := (Handshake.Step.recognize s.handshake m (rest.filterMap Item.shake)
      (by simp [System.handshake, next]) known).inv inv
    simpa [System.handshake] using moved
  | finish rest next =>
    have moved := (Handshake.Step.finish s.handshake (rest.filterMap Item.shake)
      (by simp [System.handshake, next])).inv inv
    simpa [System.handshake] using moved
  | lose => exact (Handshake.Step.lose s.handshake).inv inv

/-- Hearing a receipt does not start a note. -/
theorem noted_of_hear {stage : Stage Msg} {receipt : Receipt} {m : Msg}
    (noted : stage.hear receipt = .noted m) : stage = .noted m := by
  cases stage with
  | idle => cases noted
  | noted other =>
    cases receipt with
    | note => cases noted
    | round which => exact noted
  | offered other => rcases receipt with _ | (_ | _) <;> cases noted
  | released other => rcases receipt with _ | (_ | _) <;> cases noted

theorem Step.receipt {t : System Msg} (step : Step s t) (inv : Inv s) (heard : .note ∈ t.back) :
    t.noted ≠ [] := by
  cases step with
  | note | offer | again => exact inv.receipt heard
  | hear receipt rest next => exact inv.receipt (next ▸ List.mem_cons_of_mem _ heard)
  | record => simp
  | deliver | recognize | finish => exact inv.receipt (by simpa using heard)
  | lose => cases heard

/-- Every step keeps the invariant. -/
theorem Step.inv {t : System Msg} (step : Step s t) (inv : Inv s) : Inv t := by
  refine ⟨step.handshake inv.handshake, fun m waiting => ?_, step.receipt inv⟩
  cases step with
  | note other idle clear =>
    cases waiting
    exact ⟨fun other member => by simpa [clear.1] using member, fun heard => absurd heard clear.2⟩
  | offer other idle => cases waiting
  | again items copies =>
    obtain ⟨same, arrived⟩ := inv.note m waiting
    refine ⟨fun other member => ?_, arrived⟩
    rcases List.mem_append.mp member with old | new
    · exact same other old
    · have isItem := copies _ new
      rw [show s.stage = .noted m from waiting] at isItem
      simpa [Stage.item] using isItem.symm
  | hear receipt rest next =>
    obtain ⟨same, arrived⟩ := inv.note m (noted_of_hear waiting)
    exact ⟨same, fun heard => arrived (next ▸ List.mem_cons_of_mem _ heard)⟩
  | record other rest next =>
    obtain ⟨same, arrived⟩ := inv.note m waiting
    obtain rfl : other = m := same other (by simp [next])
    exact ⟨fun other member => same other (next ▸ List.mem_cons_of_mem _ member),
      fun _ => by simp⟩
  | deliver other rest next | recognize other rest next | finish rest next =>
    obtain ⟨same, arrived⟩ := inv.note m waiting
    exact ⟨fun other member => same other (next ▸ List.mem_cons_of_mem _ member),
      fun heard => arrived (by simpa using heard)⟩
  | lose => exact ⟨by simp, by simp⟩

/-- A fresh system. -/
theorem inv_initial : Inv (⟨.idle, [], [], false, [], []⟩ : System Msg) :=
  ⟨Handshake.inv_initial, fun _ waiting => (by cases waiting), by simp⟩

/-- The receipt that ends an exchange tells the sender that its message arrived. -/
theorem Inv.arrived_of_note (inv : Inv s) {m : Msg} (waiting : s.stage = .noted m)
    (heard : .note ∈ s.back) : m ∈ s.noted :=
  (inv.note m waiting).2 heard

/-- A released message has arrived. -/
theorem Inv.arrived_of_released (inv : Inv s) {m : Msg} (waiting : s.stage = .released m) :
    m ∈ s.delivered :=
  inv.handshake.arrived_of_released (by simp [System.handshake, waiting, Stage.shake])

end Mqtt.Library.Courier
