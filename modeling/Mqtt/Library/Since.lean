import Mathlib.Data.List.Induction

/-!
# What has held since an event

`Since Opens Spoils trace` is the past-time operator of the name, over finite
traces: some event of the trace opened an episode, and no event after it spoiled
it. `since_snoc` is its one-step unfolding, which is all an induction over a
growing trace needs.
-/

namespace Mqtt.Library

universe u

variable {Event : Type u} {Opens Spoils : Event → Prop} {trace : List Event}

/-- An event of the trace opened an episode that nothing has spoiled since. -/
def Since (Opens Spoils : Event → Prop) (trace : List Event) : Prop :=
  ∃ before event after, trace = before ++ event :: after ∧ Opens event ∧
    ∀ later ∈ after, ¬ Spoils later

@[simp] theorem since_nil : ¬ Since Opens Spoils [] := by
  rintro ⟨before, event, after, split, _⟩
  simp at split

/-- The last event opens a new episode, or leaves an earlier one unspoiled. -/
theorem since_snoc {event : Event} :
    Since Opens Spoils (trace ++ [event]) ↔
      Opens event ∨ (Since Opens Spoils trace ∧ ¬ Spoils event) := by
  constructor
  · rintro ⟨before, first, after, split, opens, unspoiled⟩
    rcases List.eq_nil_or_concat after with rfl | ⟨front, last, rfl⟩
    · obtain ⟨_, same⟩ := List.append_inj' split rfl
      have same : event = first := by simpa using same
      exact .inl (same ▸ opens)
    · have regrouped : trace ++ [event] = (before ++ first :: front) ++ [last] := by simp [split]
      obtain ⟨traceSame, lastSame⟩ := List.append_inj' regrouped rfl
      have lastSame : event = last := by simpa using lastSame
      exact .inr ⟨⟨before, first, front, traceSame, opens,
        fun later member => unspoiled later (by simp [member])⟩,
        lastSame ▸ unspoiled last (by simp)⟩
  · rintro (opens | ⟨⟨before, first, after, split, opens, unspoiled⟩, fine⟩)
    · exact ⟨trace, event, [], rfl, opens, by simp⟩
    · refine ⟨before, first, after ++ [event], by simp [split], opens, fun later member => ?_⟩
      rcases List.mem_append.mp member with inside | last
      · exact unspoiled later inside
      · obtain rfl : later = event := by simpa using last
        exact fine

/-- Whether an episode is running at the end of the trace. -/
def sinceRunning (Opens Spoils : Event → Prop) [DecidablePred Opens] [DecidablePred Spoils]
    (trace : List Event) : Bool :=
  trace.foldl (fun running event => decide (Opens event) || running && !decide (Spoils event)) false

theorem sinceRunning_iff [DecidablePred Opens] [DecidablePred Spoils] :
    sinceRunning Opens Spoils trace = true ↔ Since Opens Spoils trace := by
  induction trace using List.reverseRecOn with
  | nil => simp [sinceRunning]
  | append_singleton trace event ih =>
    rw [since_snoc, ← ih]
    simp [sinceRunning]

instance [DecidablePred Opens] [DecidablePred Spoils] : Decidable (Since Opens Spoils trace) :=
  decidable_of_iff _ sinceRunning_iff

/-- If no episode is opened while one is running, an event that spoils stands
between any two that open. -/
theorem exists_spoils_between
    (alone : ∀ before event after, trace = before ++ event :: after → Opens event →
      ¬ Since Opens Spoils before) {before middle after : List Event} {first second : Event}
    (split : trace = before ++ first :: middle ++ second :: after) (opensFirst : Opens first)
    (opensSecond : Opens second) : ∃ event ∈ middle, Spoils event := by
  by_contra unspoiled
  push Not at unspoiled
  exact alone (before ++ first :: middle) second after split opensSecond
    ⟨before, first, middle, rfl, opensFirst, unspoiled⟩

/-- An event that spoils ends every episode opened before it. -/
theorem not_since_of_spoiled {before after : List Event} {event : Event} (spoils : Spoils event)
    (unopened : ∀ later ∈ event :: after, ¬ Opens later) :
    ¬ Since Opens Spoils (before ++ event :: after) := by
  induction after using List.reverseRecOn with
  | nil =>
    rw [since_snoc]
    rintro (opens | ⟨_, fine⟩)
    · exact unopened event (by simp) opens
    · exact fine spoils
  | append_singleton after last ih =>
    rw [← List.cons_append, ← List.append_assoc, since_snoc]
    rintro (opens | ⟨running, _⟩)
    · exact unopened last (by simp) opens
    · refine ih (fun later member => unopened later ?_) running
      rcases List.mem_cons.mp member with rfl | inside
      · simp
      · simp [inside]

/-- If an episode is running whenever one is spoiled, an event that opens one stands
between any two that spoil. -/
theorem exists_opens_between
    (running : ∀ before event after, trace = before ++ event :: after → Spoils event →
      Since Opens Spoils before) {before middle after : List Event} {first second : Event}
    (split : trace = before ++ first :: middle ++ second :: after) (spoilsFirst : Spoils first)
    (spoilsSecond : Spoils second) : ∃ event ∈ first :: middle, Opens event := by
  by_contra unopened
  push Not at unopened
  exact not_since_of_spoiled spoilsFirst unopened
    (running (before ++ first :: middle) second after split spoilsSecond)

/-- The trace around one of its positions. -/
theorem split_at_position (trace : List Event) {position : Nat} (within : position < trace.length) :
    trace = trace.take position ++ trace.get ⟨position, within⟩ :: trace.drop (position + 1) := by
  have whole := (List.take_append_drop position trace).symm
  rwa [List.drop_eq_getElem_cons within] at whole

/-- What holds at every position holds at every split. -/
theorem forall_split {P : List Event → Event → Prop}
    (everywhere : ∀ position : Fin trace.length, P (trace.take position) (trace.get position))
    {before after : List Event} {event : Event} (split : trace = before ++ event :: after) :
    P before event := by
  subst split
  simpa using everywhere ⟨before.length, by simp⟩

/-- The trace around two of its positions. -/
theorem split_at_positions (trace : List Event) {first second : Nat} (order : first < second)
    (within : second < trace.length) :
    trace = trace.take first ++ trace.get ⟨first, Nat.lt_trans order within⟩ ::
      (trace.drop (first + 1)).take (second - (first + 1)) ++
      trace.get ⟨second, within⟩ :: trace.drop (second + 1) := by
  have front := split_at_position trace (Nat.lt_trans order within)
  have later : second - (first + 1) < (trace.drop (first + 1)).length := by
    rw [List.length_drop]
    omega
  have back := split_at_position (trace.drop (first + 1)) later
  have position : first + 1 + (second - (first + 1)) = second := by omega
  simp only [List.get_eq_getElem, List.getElem_drop, List.drop_drop, position, ← Nat.add_assoc]
    at front back ⊢
  rw [back] at front
  simpa using front

end Mqtt.Library
