import Mathlib.Data.List.Forall2

/-!
# Tables that agree row by row

`List.Forall₂ R` relates two tables of one length whose rows are related place by
place. A search by a test that related rows pass alike finds the same place in
both, and the operations of a table searched by key keep the relation.
-/

namespace Mqtt.Library

universe u v w

variable {Row : Type u} {Other : Type v} {R : Row → Other → Prop}
  {table : List Row} {paired : List Other} {wanted : Row → Bool} {wanted' : Other → Bool}

section Search

variable (rows : List.Forall₂ R table paired) (alike : ∀ row other, R row other →
  wanted' other = wanted row)

include rows alike

/-- A search ends at the same place. -/
theorem findIdx?_paired : paired.findIdx? wanted' = table.findIdx? wanted := by
  induction rows with
  | nil => rfl
  | cons related _ ih =>
    rw [List.findIdx?_cons, List.findIdx?_cons, alike _ _ related, ih]

/-- Both have a wanted row, or neither. -/
theorem any_paired : paired.any wanted' = table.any wanted := by
  induction rows with
  | nil => rfl
  | cons related _ ih =>
    rw [List.any_cons, List.any_cons, alike _ _ related, ih]

/-- What is found is related. -/
theorem find?_paired :
    (table.find? wanted = none ∧ paired.find? wanted' = none) ∨
      ∃ row other, R row other ∧ table.find? wanted = some row ∧
        paired.find? wanted' = some other := by
  induction rows with
  | nil => exact .inl ⟨rfl, rfl⟩
  | @cons row other _ _ related _ ih =>
    rw [List.find?_cons, List.find?_cons, alike _ _ related]
    cases wanted row with
    | false => exact ih
    | true => exact .inr ⟨row, other, related, rfl, rfl⟩

/-- The first wanted rows go together. -/
theorem eraseP_paired : List.Forall₂ R (table.eraseP wanted) (paired.eraseP wanted') := by
  induction rows with
  | nil => exact .nil
  | cons related rest ih =>
    rw [List.eraseP_cons, List.eraseP_cons, alike _ _ related]
    cases wanted _ with
    | false => exact .cons related ih
    | true => exact rest

/-- The wanted rows are related. -/
theorem filter_paired : List.Forall₂ R (table.filter wanted) (paired.filter wanted') :=
  List.rel_filter (fun row other related => Bool.eq_iff_iff.mp (alike row other related).symm) rows

end Search

section Update

variable (rows : List.Forall₂ R table paired)

include rows

/-- Related rows may be put in one place. -/
theorem set_paired (index : Nat) {row : Row} {other : Other} (related : R row other) :
    List.Forall₂ R (table.set index row) (paired.set index other) := by
  induction rows generalizing index with
  | nil => exact .nil
  | cons first rest ih =>
    cases index with
    | zero => exact .cons related rest
    | succ index => exact .cons first (ih index)

/-- A change at one place. -/
theorem modify_paired (index : Nat) {change : Row → Row} {change' : Other → Other}
    (changes : ∀ row other, R row other → R (change row) (change' other)) :
    List.Forall₂ R (table.modify index change) (paired.modify index change') := by
  induction rows generalizing index with
  | nil => simp
  | cons first rest ih =>
    cases index with
    | zero => simpa using ⟨changes _ _ first, rest⟩
    | succ index => simpa using ⟨first, ih index⟩

/-- Rows at one place are related, and so are the defaults. -/
theorem getD_paired (index : Nat) {row : Row} {other : Other} (related : R row other) :
    R (table.getD index row) (paired.getD index other) := by
  induction rows generalizing index with
  | nil => simpa using related
  | cons first rest ih =>
    cases index with
    | zero => simpa using first
    | succ index => simpa using ih index

/-- The tables end at the same place. -/
theorem getElem?_paired (index : Nat) :
    (table[index]? = none ∧ paired[index]? = none) ∨
      ∃ row other, R row other ∧ table[index]? = some row ∧ paired[index]? = some other := by
  induction rows generalizing index with
  | nil => exact .inl ⟨rfl, rfl⟩
  | cons first rest ih =>
    cases index with
    | zero => exact .inr ⟨_, _, first, rfl, rfl⟩
    | succ index => simpa using ih index

/-- A change of every row. -/
theorem map_paired {change : Row → Row} {change' : Other → Other}
    (changes : ∀ row other, R row other → R (change row) (change' other)) :
    List.Forall₂ R (table.map change) (paired.map change') :=
  List.rel_map (fun row other related => changes row other related) rows

/-- What related rows have in common, the tables have in common. -/
theorem map_eq_paired {Key : Type w} {key : Row → Key} {key' : Other → Key}
    (same : ∀ row other, R row other → key' other = key row) : paired.map key' = table.map key := by
  induction rows with
  | nil => rfl
  | cons related _ ih =>
    rw [List.map_cons, List.map_cons, same _ _ related, ih]

end Update

/-- Tables may be joined. -/
theorem append_paired {more : List Row} {more' : List Other} (rows : List.Forall₂ R table paired)
    (added : List.Forall₂ R more more') : List.Forall₂ R (table ++ more) (paired ++ more') :=
  List.rel_append rows added

end Mqtt.Library
