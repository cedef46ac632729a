import Mathlib.Data.List.Basic

/-!
# Machines that keep their own history

A `Logged` state carries the list of transitions that produced it, each with the
state it started from. `Reaches` is the closure of one guarded transition
function; a guard may read the whole history, so control-flow facts can be
stated without adding fields to the machine's state.

`Reaches.cut` is the rule every history property rests on: an entry of the trace
was once the next transition, taken from a state reached before it.
-/

namespace Mqtt.Library

universe u v

/-- One logged transition: the state it was taken from, and its label. -/
structure Entry (State : Type u) (Label : Type v) where
  before : State
  label : Label

/-- A state with the complete history that led to it. -/
structure Logged (State : Type u) (Label : Type v) where
  state : State
  trace : List (Entry State Label)

namespace Logged

variable {State : Type u} {Label : Type v}

/-- Take one transition and append it to the history. -/
def perform (apply : State → Label → State) (log : Logged State Label) (label : Label) :
    Logged State Label where
  state := apply log.state label
  trace := log.trace ++ [⟨log.state, label⟩]

@[simp] theorem perform_state (apply : State → Label → State) (log : Logged State Label)
    (label : Label) : (log.perform apply label).state = apply log.state label := rfl

@[simp] theorem perform_trace (apply : State → Label → State) (log : Logged State Label)
    (label : Label) : (log.perform apply label).trace = log.trace ++ [⟨log.state, label⟩] := rfl

/-- Zero or more transitions, each allowed in the history it extends. -/
inductive Reaches (apply : State → Label → State)
    (Allowed : Logged State Label → Label → Prop) :
    Logged State Label → Logged State Label → Prop where
  | refl {log} : Reaches apply Allowed log log
  | step {start log label} (prior : Reaches apply Allowed start log)
      (allowed : Allowed log label) : Reaches apply Allowed start (log.perform apply label)

namespace Reaches

variable {apply : State → Label → State} {Allowed : Logged State Label → Label → Prop}
  {start middle finish : Logged State Label}

/-- One allowed transition. -/
theorem single {log : Logged State Label} {label : Label} (allowed : Allowed log label) :
    Reaches apply Allowed log (log.perform apply label) :=
  .step .refl allowed

/-- Two histories that meet compose. -/
theorem trans (first : Reaches apply Allowed start middle)
    (second : Reaches apply Allowed middle finish) : Reaches apply Allowed start finish := by
  induction second with
  | refl => exact first
  | step _ allowed ih => exact .step ih allowed

/-- The history only grows. -/
theorem extends_trace (reaches : Reaches apply Allowed start finish) :
    ∃ suffix, finish.trace = start.trace ++ suffix := by
  induction reaches with
  | refl => exact ⟨[], by simp⟩
  | step _ _ ih =>
    obtain ⟨suffix, same⟩ := ih
    exact ⟨suffix ++ [_], by rw [perform_trace, same, List.append_assoc]⟩

/-- A property kept by every allowed transition holds at the end of a history. -/
theorem invariant (Inv : Logged State Label → Prop)
    (kept : ∀ log label, Allowed log label → Inv log → Inv (log.perform apply label))
    (reaches : Reaches apply Allowed start finish) (holds : Inv start) : Inv finish := by
  induction reaches with
  | refl => exact holds
  | step _ allowed ih => exact kept _ _ allowed ih

/-- The same when the entries added on the way all meet a condition; the step may
use that the state it starts from was reached. -/
theorem invariant_of (Meets : Entry State Label → Prop) (Inv : Logged State Label → Prop)
    (kept : ∀ log label, Reaches apply Allowed start log → Allowed log label →
      Meets ⟨log.state, label⟩ → Inv log → Inv (log.perform apply label))
    (reaches : Reaches apply Allowed start finish) {added : List (Entry State Label)}
    (split : finish.trace = start.trace ++ added)
    (meets : ∀ entry ∈ added, Meets entry) (holds : Inv start) : Inv finish := by
  induction reaches generalizing added with
  | refl => exact holds
  | @step log label prior allowed ih =>
    obtain ⟨suffix, same⟩ := prior.extends_trace
    have addedSame : added = suffix ++ [⟨log.state, label⟩] := by
      rw [perform_trace, same, List.append_assoc] at split
      exact (List.append_cancel_left split).symm
    subst addedSame
    exact kept log label prior allowed (meets _ (by simp))
      (ih same fun entry member => meets entry (by simp [member]))

/-- A history is one of any narrower guard that all its transitions meet. -/
theorem restrict {Meets : Logged State Label → Label → Prop}
    (reaches : Reaches apply Allowed start finish)
    (meets : ∀ log label rest, Reaches apply Allowed start log → Allowed log label →
      finish.trace = log.trace ++ ⟨log.state, label⟩ :: rest → Meets log label) :
    Reaches apply (fun log label => Allowed log label ∧ Meets log label) start finish := by
  induction reaches with
  | refl => exact .refl
  | @step log label prior allowed ih =>
    refine .step (ih fun earlier other rest reached fine split => ?_)
      ⟨allowed, meets log label [] prior allowed (by simp)⟩
    exact meets earlier other (rest ++ [⟨log.state, label⟩]) reached fine (by simp [split])

/-- Every entry of the added history was an allowed transition taken from a
state reached before it; the rest of the history continues from its result. -/
theorem cut (reaches : Reaches apply Allowed start finish)
    {before after : List (Entry State Label)} {entry : Entry State Label}
    (split : finish.trace = start.trace ++ before ++ entry :: after) :
    ∃ log, Reaches apply Allowed start log ∧ log.trace = start.trace ++ before ∧
      entry.before = log.state ∧ Allowed log entry.label ∧
      Reaches apply Allowed (log.perform apply entry.label) finish := by
  induction reaches generalizing after with
  | refl =>
    have lengths := congrArg List.length split
    simp at lengths
  | @step log label prior allowed ih =>
    rcases List.eq_nil_or_concat after with rfl | ⟨front, last, rfl⟩
    · rw [perform_trace] at split
      obtain ⟨same, lastSame⟩ := List.append_inj' split rfl
      have entrySame : entry = ⟨log.state, label⟩ := by
        simpa using lastSame.symm
      subst entrySame
      exact ⟨log, prior, same, rfl, allowed, .refl⟩
    · rw [perform_trace] at split
      have regrouped : log.trace ++ [⟨log.state, label⟩] =
          (start.trace ++ before ++ entry :: front) ++ [last] := by
        rw [split]
        simp
      obtain ⟨same, _⟩ := List.append_inj' regrouped rfl
      obtain ⟨found, foundReaches, foundTrace, foundBefore, foundAllowed, onward⟩ :=
        ih same
      exact ⟨found, foundReaches, foundTrace, foundBefore, foundAllowed,
        .step onward allowed⟩

/-- A history that adds nothing stays where it is. -/
theorem eq_of_trace (reaches : Reaches apply Allowed start finish)
    (same : finish.trace = start.trace) : finish = start := by
  cases reaches with
  | refl => rfl
  | step prior _ =>
    obtain ⟨suffix, grown⟩ := prior.extends_trace
    have lengths := congrArg List.length same
    simp [grown] at lengths

/-- The first transition a history adds is taken where it starts. -/
theorem head (reaches : Reaches apply Allowed start finish) {rest : List (Entry State Label)}
    {entry : Entry State Label} (split : finish.trace = start.trace ++ entry :: rest) :
    ∃ label, entry = ⟨start.state, label⟩ ∧ Allowed start label ∧
      Reaches apply Allowed (start.perform apply label) finish ∧
      finish.trace = (start.perform apply label).trace ++ rest := by
  obtain ⟨log, reached, trace, before, allowed, onward⟩ :=
    @cut _ _ _ _ _ _ reaches [] rest entry (by simpa using split)
  obtain rfl : log = start := reached.eq_of_trace (by simpa using trace)
  obtain ⟨state, label⟩ := entry
  obtain rfl : state = log.state := before
  exact ⟨label, rfl, allowed, onward, by simpa using split⟩

end Reaches
end Logged
end Mqtt.Library
