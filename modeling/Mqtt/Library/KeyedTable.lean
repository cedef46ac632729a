import Mathlib.Data.List.Basic
import Mathlib.Data.List.Nodup

/-!
# Tables searched by key

A table is a list of rows, and its operations change or drop the first row that
matches a key. Where keys are distinct the first match is the only one, and the
operations are a `map` and a `filter`.
-/

namespace Mqtt.Library

universe u v

variable {Row : Type u} {Key : Type v}

/-- Change the first row that matches. -/
def updateFirst (wanted : Row → Bool) (change : Row → Row) (table : List Row) : List Row :=
  match table.findIdx? wanted with
  | none => table
  | some index => table.modify index change

section UpdateFirst

variable {wanted : Row → Bool} {change : Row → Row}

@[simp] theorem updateFirst_nil : updateFirst wanted change [] = [] := rfl

theorem updateFirst_cons (row : Row) (rest : List Row) :
    updateFirst wanted change (row :: rest) =
      if wanted row then change row :: rest else row :: updateFirst wanted change rest := by
  unfold updateFirst
  rw [List.findIdx?_cons]
  cases wanted row
  · cases rest.findIdx? wanted <;> simp
  · simp

/-- The row that changes is the one before which nothing matches. -/
theorem updateFirst_append_cons {front back : List Row} {row : Row}
    (unseen : ∀ other ∈ front, wanted other = false) (found : wanted row = true) :
    updateFirst wanted change (front ++ row :: back) = front ++ change row :: back := by
  induction front with
  | nil => simp [updateFirst_cons, found]
  | cons other rest ih =>
    rw [List.forall_mem_cons] at unseen
    rw [List.cons_append, updateFirst_cons, ih unseen.2]
    simp [unseen.1]

/-- A projection the change leaves alone is left alone in the whole table. -/
theorem map_updateFirst {key : Row → Key}
    (keeps : ∀ row, wanted row = true → key (change row) = key row) (table : List Row) :
    (updateFirst wanted change table).map key = table.map key := by
  induction table with
  | nil => rfl
  | cons row rest ih =>
    rw [updateFirst_cons]
    split
    · rename_i found
      simp [keeps row found]
    · simp [ih]

theorem mem_updateFirst {table : List Row} {row : Row}
    (member : row ∈ updateFirst wanted change table) :
    row ∈ table ∨ ∃ old ∈ table, wanted old = true ∧ row = change old := by
  induction table with
  | nil => simp at member
  | cons first rest ih =>
    rw [updateFirst_cons] at member
    split at member
    · rename_i found
      rcases List.mem_cons.mp member with rfl | inRest
      · exact .inr ⟨first, by simp, found, rfl⟩
      · exact .inl (by simp [inRest])
    · rcases List.mem_cons.mp member with rfl | inRest
      · exact .inl (by simp)
      · rcases ih inRest with kept | ⟨old, inOld, found, same⟩
        · exact .inl (by simp [kept])
        · exact .inr ⟨old, by simp [inOld], found, same⟩

/-- A row that does not match stays. -/
theorem mem_updateFirst_of_neg {table : List Row} {row : Row} (member : row ∈ table)
    (other : wanted row = false) : row ∈ updateFirst wanted change table := by
  induction table with
  | nil => cases member
  | cons first rest ih =>
    rw [updateFirst_cons]
    rcases List.mem_cons.mp member with rfl | inRest
    · simp [other]
    · split
      · exact List.mem_cons_of_mem _ inRest
      · exact List.mem_cons_of_mem _ (ih inRest)

end UpdateFirst

variable {key : Row → Key}

/-- A key that is not there is nobody's. -/
theorem key_ne_of_mem {row : Row} {rest : List Row} {other : Row}
    (apart : key row ∉ rest.map key) (member : other ∈ rest) : key other ≠ key row :=
  fun same => apart (same ▸ List.mem_map_of_mem member)

variable [DecidableEq Key]

/-- With distinct keys the first match is the only one. -/
theorem updateFirst_eq_map (wanted : Key) (change : Row → Row) {table : List Row}
    (distinct : (table.map key).Nodup) :
    updateFirst (fun row => key row = wanted) change table =
      table.map fun row => if key row = wanted then change row else row := by
  induction table with
  | nil => rfl
  | cons row rest ih =>
    rw [List.map_cons, List.nodup_cons] at distinct
    rw [updateFirst_cons, ih distinct.2, List.map_cons]
    by_cases found : key row = wanted
    · subst found
      have others : rest.map (fun other => if key other = key row then change other else other) =
          rest.map id :=
        List.map_congr_left fun other member => if_neg (key_ne_of_mem distinct.1 member)
      simp [others]
    · simp [found]

theorem find?_of_mem {table : List Row} {row : Row} (distinct : (table.map key).Nodup)
    (member : row ∈ table) : (table.find? fun other => key other = key row) = some row := by
  cases found : table.find? fun other => key other = key row with
  | none => exact absurd (List.find?_eq_none.mp found row member) (by simp)
  | some other =>
    have same : key other = key row := by simpa using List.find?_some found
    rw [List.inj_on_of_nodup_map distinct (List.mem_of_find?_eq_some found) member same]

theorem eraseP_eq_filter (wanted : Key) {table : List Row} (distinct : (table.map key).Nodup) :
    (table.eraseP fun row => key row = wanted) = table.filter fun row => key row ≠ wanted := by
  induction table with
  | nil => rfl
  | cons row rest ih =>
    rw [List.map_cons, List.nodup_cons] at distinct
    by_cases found : key row = wanted
    · subst found
      have others : ∀ other ∈ rest, decide (key other ≠ key row) = true :=
        fun other member => by simpa using key_ne_of_mem distinct.1 member
      rw [List.eraseP_cons_of_pos (by simp), List.filter_cons_of_neg (by simp),
        List.filter_eq_self.mpr others]
    · simp [found, ih distinct.2]

end Mqtt.Library
