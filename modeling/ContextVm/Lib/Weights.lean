import ContextVm.Lib.Lru
import Mathlib.Algebra.BigOperators.Group.List.Basic
import Mathlib.Algebra.Order.BigOperators.Group.List
import Mathlib.Algebra.Order.Group.Nat
import Mathlib.Algebra.Ring.Nat

/-! What the entries of a table or a cache weigh together. -/

namespace ContextVm

section Table

variable {κ α : Type} [DecidableEq κ] {table : AList fun _ : κ => α} {key : κ} {value : α}

/-- What the entries of a table weigh together. -/
def heldWeight (weigh : α → Nat) (table : AList fun _ : κ => α) : Nat :=
  (table.entries.map fun entry => weigh entry.2).sum

omit [DecidableEq κ] in
/-- A table without entries is the empty one. -/
theorem isEmpty_entries : table.entries.isEmpty = true ↔ table = ∅ := by
  rw [List.isEmpty_iff]
  constructor
  · intro none
    exact AList.ext none
  · rintro rfl
    rfl

/-- A free key adds one entry, and its weight. -/
theorem insert_of_free (weigh : α → Nat) (value : α) (free : table.lookup key = none) :
    (table.insert key value).entries.length = table.entries.length + 1 ∧
      heldWeight weigh (table.insert key value) = heldWeight weigh table + weigh value := by
  rw [heldWeight, AList.entries_insert_of_notMem (AList.lookup_eq_none.mp free)]
  exact ⟨rfl, Nat.add_comm _ _⟩

/-- An erased key takes one entry along, and its weight. -/
theorem erase_of_held (weigh : α → Nat) (held : table.lookup key = some value) :
    (table.erase key).entries.length + 1 = table.entries.length ∧
      heldWeight weigh (table.erase key) + weigh value = heldWeight weigh table := by
  -- The entry that is taken out sits between those that stay.
  obtain ⟨found, before, after, -, entries, rest⟩ :=
    List.exists_of_kerase (AList.mem_keys.mp (AList.lookup_isSome.mp (by rw [held]; rfl)))
  have same : found = value := by
    have member : (⟨key, found⟩ : Sigma fun _ : κ => α) ∈ table.entries := by grind
    rw [← AList.mem_lookup_iff, Option.mem_def, held, Option.some.injEq] at member
    exact member.symm
  subst same
  have erased : (table.erase key).entries = before ++ after := rest
  rw [heldWeight, heldWeight, erased, entries]
  simp only [List.length_append, List.length_cons, List.map_append, List.map_cons,
    List.sum_append, List.sum_cons]
  omega

section

variable (weigh : α → Nat) (table : AList fun _ : κ => α) (key : κ)

/-- Erasing a key takes away what it weighed, if anything. -/
theorem heldWeight_erase :
    heldWeight weigh (table.erase key) + (table.lookup key).elim 0 weigh =
      heldWeight weigh table := by
  cases held : table.lookup key with
  | none =>
    have same : (table.erase key).entries = table.entries :=
      List.kerase_of_notMem_keys (AList.lookup_eq_none.mp held)
    rw [heldWeight, same]
    rfl
  | some value => exact (erase_of_held weigh held).2

/-- Writing a key trades what it weighed for the new weight. -/
theorem heldWeight_insert (value : α) :
    heldWeight weigh (table.insert key value) + (table.lookup key).elim 0 weigh =
      heldWeight weigh table + weigh value := by
  have written : heldWeight weigh (table.insert key value) =
      weigh value + heldWeight weigh (table.erase key) := rfl
  have erased := heldWeight_erase weigh table key
  omega

end

end Table

namespace Lru

variable {κ ν : Type} [DecidableEq κ] (weigh : ν → Nat) (cache : Lru κ ν) (key : κ)

omit [DecidableEq κ] in
/-- What the entries of a cache weigh together. -/
def weight : Nat := heldWeight weigh cache.map

/-- A removal takes away what the key weighed, if anything. -/
theorem weight_pop :
    (cache.pop key).weight weigh + (cache.peek key).elim 0 weigh = cache.weight weigh :=
  heldWeight_erase weigh cache.map key

/-- Removals add no weight. -/
theorem weight_foldl_pop (keys : List κ) :
    (keys.foldl pop cache).weight weigh ≤ cache.weight weigh := by
  -- One key after the other is removed.
  induction keys generalizing cache with
  | nil => exact Nat.le_refl _
  | cons first rest ih =>
    have one := cache.weight_pop weigh first
    have others := ih (cache.pop first)
    rw [List.foldl_cons]
    omega

/-- Making room adds no weight. -/
theorem weight_makeRoom : (cache.makeRoom key).weight weigh ≤ cache.weight weigh := by
  unfold makeRoom
  split
  · -- The entries that are kept are some of those there were.
    exact ((List.dropLast_sublist cache.map.entries).map _).sum_le_sum fun _ _ => Nat.zero_le _
  · exact Nat.le_refl _

/-- Writing a held key trades its weight for the new one. -/
theorem weight_put_held {old : ν} (held : cache.peek key = some old) (value : ν) :
    (cache.put key value).weight weigh + weigh old = cache.weight weigh + weigh value := by
  have room : cache.makeRoom key = cache :=
    if_neg fun overflow => by rw [overflow.1] at held; cases held
  have written := heldWeight_insert weigh cache.map key value
  have found : cache.map.lookup key = some old := held
  rw [found] at written
  simp only [weight, put, room]
  exact written

/-- A write adds at most the new weight. -/
theorem weight_put_le (value : ν) :
    (cache.put key value).weight weigh ≤ cache.weight weigh + weigh value := by
  have room := cache.weight_makeRoom weigh key
  have written := heldWeight_insert weigh (cache.makeRoom key).map key value
  simp only [weight, put] at room ⊢
  omega

/-- No entry outweighs its cache. -/
theorem le_weight {value : ν} (held : cache.peek key = some value) :
    weigh value ≤ cache.weight weigh := by
  have one := cache.weight_pop weigh key
  rw [held, Option.elim_some] at one
  omega

end Lru

end ContextVm
