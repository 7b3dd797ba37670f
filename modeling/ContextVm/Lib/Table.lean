import Mathlib.Algebra.BigOperators.Group.List.Basic
import Mathlib.Algebra.Ring.Nat

/-! Tables of concurrent processes, one row a process, and the weight they carry together. -/

namespace ContextVm

section Table

variable {π : Type}

/-- The total weight of the rows of a table. -/
def tableWeight (weight : π → Nat) (table : List π) : Nat := (table.map weight).sum

/-- An empty table weighs nothing. -/
@[simp] theorem tableWeight_nil (weight : π → Nat) : tableWeight weight [] = 0 := rfl

/-- A new row adds its weight. -/
@[simp] theorem tableWeight_append (weight : π → Nat) (table : List π) (row : π) :
    tableWeight weight (table ++ [row]) = tableWeight weight table + weight row := by
  simp [tableWeight]

/-- New rows add their weights. -/
theorem tableWeight_append_list (weight : π → Nat) (table more : List π) :
    tableWeight weight (table ++ more) = tableWeight weight table + tableWeight weight more := by
  simp [tableWeight]

/-- Rows without weight make a table without weight. -/
theorem tableWeight_eq_zero {weight : π → Nat} {table : List π}
    (light : ∀ row ∈ table, weight row = 0) : tableWeight weight table = 0 := by
  refine List.sum_eq_zero ?_
  intro amount member
  obtain ⟨row, among, rfl⟩ := List.mem_map.mp member
  exact light row among

/-- A changed row trades its old weight for the new one. -/
theorem tableWeight_set (weight : π → Nat) {table : List π} {index : Nat} {old : π} (row : π)
    (found : table[index]? = some old) :
    tableWeight weight (table.set index row) + weight old =
      tableWeight weight table + weight row := by
  -- Walk to the row that is rewritten.
  induction table generalizing index with
  | nil => simp at found
  | cons head rest ih =>
    cases index with
    | zero =>
      -- The row sits at the front, where the two weights are added directly.
      cases found
      simp [tableWeight]
      omega
    | succ index =>
      -- It lies further on, and the front row weighs the same on both sides.
      have tail := ih found
      simp only [tableWeight, List.set_cons_succ, List.map_cons, List.sum_cons] at tail ⊢
      omega

/-- No row outweighs its table. -/
theorem le_tableWeight (weight : π → Nat) {table : List π} {row : π} (member : row ∈ table) :
    weight row ≤ tableWeight weight table := by
  induction table with
  | nil => cases member
  | cons head rest ih => grind [tableWeight]

/-- A row that has all the weight leaves none for the others. -/
theorem weight_eq_zero_of_others {weight : π → Nat} {table : List π} {index other : Nat}
    {old row : π} (found : table[index]? = some old) (all : tableWeight weight table ≤ weight old)
    (apart : other ≠ index) (read : table[other]? = some row) : weight row = 0 := by
  -- Walk to the row that has the weight, or past the one that is asked about.
  induction table generalizing index other with
  | nil => simp at found
  | cons head rest ih =>
    simp only [tableWeight, List.map_cons, List.sum_cons] at all
    cases index with
    | zero =>
      cases other with
      | zero => exact absurd rfl apart
      | succ other =>
        simp only [List.getElem?_cons_zero, Option.some.injEq, List.getElem?_cons_succ]
          at found read
        subst found
        have within := le_tableWeight weight (List.mem_of_getElem? read)
        unfold tableWeight at within
        omega
    | succ index =>
      simp only [List.getElem?_cons_succ] at found
      cases other with
      | zero =>
        cases read
        have within := le_tableWeight weight (List.mem_of_getElem? found)
        unfold tableWeight at within
        omega
      | succ other => grind [tableWeight]

/-- A changed row is read in its place, and the others in theirs. -/
theorem getElem?_set_eq {table : List π} {index : Nat} {old : π} (row : π)
    (found : table[index]? = some old) (other : Nat) :
    (table.set index row)[other]? = if other = index then some row else table[other]? := by
  grind

/-- What is read after a change is the new row or an old one. -/
theorem getElem?_set_cases {table : List π} {index other : Nat} {old row held : π}
    (found : table[index]? = some old) (read : (table.set index row)[other]? = some held) :
    (other = index ∧ held = row) ∨ (other ≠ index ∧ table[other]? = some held) := by
  grind

/-- Every row is still there, related to what it was. -/
theorem exists_getElem?_set (related : π → π → Prop) {table : List π} {index other : Nat}
    {old held : π} (row : π) (found : table[index]? = some old) (refl : ∀ any, related any any)
    (moved : related old row) (read : table[other]? = some held) :
    ∃ kept, (table.set index row)[other]? = some kept ∧ related held kept := by
  grind

/-- What is read after an addition is an old row or the new one. -/
theorem getElem?_append_singleton {table : List π} {row found : π} {index : Nat}
    (read : (table ++ [row])[index]? = some found) :
    table[index]? = some found ∨ (index = table.length ∧ row = found) := by
  -- An index inside the old table reads an old row.
  rw [List.getElem?_append] at read
  split at read
  · exact .inl read
  · grind

/-- A new row is read at the end, and the others in their places. -/
theorem getElem?_append_eq (table : List π) (row : π) (index : Nat) :
    (table ++ [row])[index]? = if index = table.length then some row else table[index]? := by
  by_cases last : index = table.length
  · simp [last]
  · rw [if_neg last, List.getElem?_append]
    split
    · rfl
    · -- Past the new row there is nothing to read in either table.
      have past : [row].length ≤ index - table.length := by grind
      rw [List.getElem?_eq_none past, List.getElem?_eq_none (by omega)]

end Table

end ContextVm
