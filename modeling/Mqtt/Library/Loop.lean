import Mathlib.Data.Sum.Basic

/-!
# Loops without a bound

The body of a loop ends it with a value or goes on with a new state. `Loop` is the run
of `for (;;) body` from a state to its value: there is none if the loop does not end.
A function that counts rounds down computes the value, if it has rounds enough for a
measure that every round lowers.

`Noted` is a computation that need not return and takes notes as it goes; `Computes` says
that it does return, and with which value, and `Ensures` is what it guarantees.
-/

namespace Mqtt.Library

universe u v w

/-! ## One loop -/

section Loops

variable {State : Type u} {Value : Type v}

/-- The loop ends, with this value. -/
inductive Loop (body : State → Value ⊕ State) : State → Value → Prop where
  | done {state value} (ends : body state = .inl value) : Loop body state value
  | again {state next value} (goesOn : body state = .inr next) (rest : Loop body next value) :
      Loop body state value

namespace Loop

variable {body : State → Value ⊕ State}

/-- A loop ends with one value. -/
theorem unique {state : State} {value other : Value} (first : Loop body state value)
    (second : Loop body state other) : value = other := by
  induction first with
  | done ends =>
    cases second with
    | done ends' => exact Sum.inl.inj (ends.symm.trans ends')
    | again goesOn _ => cases ends.symm.trans goesOn
  | again goesOn _ ih =>
    cases second with
    | done ends => cases ends.symm.trans goesOn
    | again goesOn' rest =>
      obtain rfl := Sum.inr.inj (goesOn.symm.trans goesOn')
      exact ih rest

/-- What every round keeps that goes on, the round that ends the loop may assume. -/
theorem invariant {Keeps : State → Prop} {Post : Value → Prop}
    (goesOn : ∀ state next, body state = .inr next → Keeps state → Keeps next)
    (ends : ∀ state value, body state = .inl value → Keeps state → Post value) {state : State}
    {value : Value} (loop : Loop body state value) (start : Keeps state) : Post value := by
  induction loop with
  | done ended => exact ends _ _ ended start
  | again ran _ onward => exact onward (goesOn _ _ ran start)

/-- With as many rounds as the measure asks for, counting down computes the value. -/
theorem of_fuel {run : Nat → State → Value} {measure : State → Nat}
    (unfolds : ∀ rounds state, run (rounds + 1) state = (body state).elim id (run rounds))
    (lowers : ∀ state next, body state = .inr next → measure next < measure state) {rounds : Nat}
    {state : State} (enough : measure state < rounds) : Loop body state (run rounds state) := by
  induction rounds generalizing state with
  | zero => omega
  | succ rounds ih =>
    rw [unfolds]
    cases ran : body state with
    | inl value => exact .done ran
    | inr next =>
      have lower := lowers state next ran
      exact .again ran (ih (by omega))

end Loop
end Loops

/-! ## Computations that take notes -/

variable {Note : Type u} {Value : Type v} {Result : Type w}

/-- A computation that need not return: the notes it takes and the value it returns. -/
def Noted (Note : Type u) (Value : Type v) : Type (max u v) := List Note → Value → Prop

namespace Noted

def ret (value : Value) : Noted Note Value := fun notes result => notes = [] ∧ result = value

/-- A computation noted as a whole, once it has returned. -/
def noting (runs : Value → Prop) (note : Value → Note) : Noted Note Value :=
  fun notes result => runs result ∧ notes = [note result]

def bind (first : Noted Note Value) (next : Value → Noted Note Result) : Noted Note Result :=
  fun notes result =>
    ∃ before value after, first before value ∧ next value after result ∧ notes = before ++ after

/-- It returns, and always with this value. -/
structure Computes (computation : Noted Note Value) (value : Value) : Prop where
  returns : ∃ notes, computation notes value
  only : ∀ notes result, computation notes result → result = value

/-- Every note it takes is sound, and the value it returns is as asked. -/
def Ensures (computation : Noted Note Value) (Sound : Note → Prop) (Post : Value → Prop) : Prop :=
  ∀ notes result, computation notes result → (∀ note ∈ notes, Sound note) ∧ Post result

namespace Computes

theorem ret (value : Value) : (Noted.ret value : Noted Note Value).Computes value :=
  ⟨⟨[], rfl, rfl⟩, fun _ _ ran => ran.2⟩

theorem noting {runs : Value → Prop} (note : Value → Note) {value : Value}
    (runs_iff : ∀ result, runs result ↔ result = value) : (Noted.noting runs note).Computes value :=
  ⟨⟨[note value], (runs_iff value).mpr rfl, rfl⟩, fun _ result ran => (runs_iff result).mp ran.1⟩

theorem bind {first : Noted Note Value} {next : Value → Noted Note Result} {value : Value}
    {result : Result} (ran : first.Computes value) (goesOn : (next value).Computes result) :
    (first.bind next).Computes result := by
  obtain ⟨before, returned⟩ := ran.returns
  obtain ⟨after, ended⟩ := goesOn.returns
  refine ⟨⟨before ++ after, before, value, after, returned, ended, rfl⟩, ?_⟩
  rintro _ other ⟨_, middle, _, first', next', rfl⟩
  obtain rfl := ran.only _ _ first'
  exact goesOn.only _ _ next'

end Computes

namespace Ensures

variable {Sound : Note → Prop}

theorem ret {Post : Value → Prop} {value : Value} (post : Post value) :
    (Noted.ret value).Ensures Sound Post := by
  rintro _ _ ⟨rfl, rfl⟩
  exact ⟨fun _ member => absurd member List.not_mem_nil, post⟩

theorem noting {runs : Value → Prop} {note : Value → Note} {Post : Value → Prop}
    (ensures : ∀ result, runs result → Sound (note result) ∧ Post result) :
    (Noted.noting runs note).Ensures Sound Post := by
  rintro _ result ⟨ran, rfl⟩
  obtain ⟨sound, post⟩ := ensures result ran
  exact ⟨fun _ member => List.mem_singleton.mp member ▸ sound, post⟩

/-- What the first computation ensures, the second may assume. -/
theorem bind {first : Noted Note Value} {next : Value → Noted Note Result}
    {Between : Value → Prop} {Post : Result → Prop} (ran : first.Ensures Sound Between)
    (goesOn : ∀ value, Between value → (next value).Ensures Sound Post) :
    (first.bind next).Ensures Sound Post := by
  rintro _ result ⟨before, value, after, first', next', rfl⟩
  obtain ⟨earlier, between⟩ := ran before value first'
  obtain ⟨later, post⟩ := goesOn value between after result next'
  exact ⟨fun note member => (List.mem_append.mp member).elim (earlier note) (later note), post⟩

end Ensures
end Noted
end Mqtt.Library
