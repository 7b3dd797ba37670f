import Mathlib.Data.Finset.Card
import Mathlib.Data.List.AList
import Mathlib.Order.Interval.Finset.Nat

/-! Tables filled slot by slot: where their first gap is, and when they fill a range of slots. -/

namespace ContextVm

section Gap

/-- Walk from slot to slot while they are held, for at most so many steps. -/
def walkHeld {α : Type} (held : α → Bool) (next : α → α) : Nat → α → α
  | 0, slot => slot
  | steps + 1, slot => if held slot then walkHeld held next steps (next slot) else slot

/-- A walk depends on the steps from held slots only. -/
theorem walkHeld_congr {α : Type} {held : α → Bool} {next other : α → α}
    (same : ∀ slot, held slot = true → next slot = other slot) (steps : Nat) (slot : α) :
    walkHeld held next steps slot = walkHeld held other steps slot := by
  -- Step by step, from whichever slot the walk has come to.
  induction steps generalizing slot with
  | zero => rfl
  | succ steps ih =>
    simp only [walkHeld]
    split
    · simp_all
    · rfl

variable {held : Nat → Bool}

/-- The walk over numbers passes held ones only, and stops at a gap or when its steps run out. -/
theorem walkHeld_succ (held : Nat → Bool) (steps slot : Nat) :
    slot ≤ walkHeld held (· + 1) steps slot ∧
      (∀ passed, slot ≤ passed → passed < walkHeld held (· + 1) steps slot → held passed = true) ∧
      (held (walkHeld held (· + 1) steps slot) = false ∨
        walkHeld held (· + 1) steps slot = slot + steps) := by
  -- Step by step: either the slot is a gap, or the walk goes on behind it.
  induction steps generalizing slot with
  | zero =>
    refine ⟨Nat.le_refl _, ?_, .inr rfl⟩
    intro passed above below
    exact absurd below (Nat.not_lt.mpr above)
  | succ steps ih =>
    simp only [walkHeld]
    split
    · -- One slot is passed, and the rest of the walk starts behind it.
      rename_i here
      obtain ⟨beyond, between, stopped⟩ := ih (slot + 1)
      refine ⟨by omega, ?_, ?_⟩
      · grind
      · grind
    · grind

/-- The slots held in a row from a first one on end at a gap. -/
structure Frontier (held : Nat → Bool) (first gap : Nat) : Prop where
  behind : first ≤ gap
  row : ∀ slot, first ≤ slot → slot < gap → held slot = true
  missing : held gap = false

/-- A row of held slots is among the held ones. -/
theorem row_subset {slots : Finset Nat} (spec : ∀ slot, held slot = true ↔ slot ∈ slots)
    {first gap : Nat} (row : ∀ slot, first ≤ slot → slot < gap → held slot = true) :
    Finset.Ico first gap ⊆ slots := by
  grind

/-- A walk of as many steps as slots are held ends at their first gap. -/
theorem walkHeld_frontier {slots : Finset Nat} (spec : ∀ slot, held slot = true ↔ slot ∈ slots)
    (first : Nat) : Frontier held first (walkHeld held (· + 1) slots.card first) := by
  obtain ⟨behind, row, stopped⟩ := walkHeld_succ held slots.card first
  refine ⟨behind, row, ?_⟩
  rcases stopped with gap | spent
  · exact gap
  · -- All the held slots have been passed, so the next one cannot be held as well.
    rw [spent] at row ⊢
    have all : Finset.Ico first (first + slots.card) = slots :=
      Finset.eq_of_subset_of_card_le (row_subset spec row) (by simp)
    by_contra still
    have member := (spec _).mp (eq_true_of_ne_false still)
    have inside : first + slots.card ∈ Finset.Ico first (first + slots.card) := by
      rw [all]
      exact member
    rw [Finset.mem_Ico] at inside
    omega

/-- The held slots are the row, and those before or beyond the gap. -/
theorem Frontier.card_eq {slots : Finset Nat} (spec : ∀ slot, held slot = true ↔ slot ∈ slots)
    {first gap : Nat} (frontier : Frontier held first gap) :
    slots.card = (gap - first) + (slots.filter fun slot => slot < first ∨ gap < slot).card := by
  -- The slots outside the row are those before it and those behind the gap.
  have outside : (slots.filter fun slot => slot < first ∨ gap < slot) =
      slots \ Finset.Ico first gap := by
    ext slot
    rw [Finset.mem_filter, Finset.mem_sdiff, Finset.mem_Ico]
    refine and_congr_right fun member => ?_
    -- The gap itself is not held.
    have other : slot ≠ gap := by
      rintro rfl
      simp [← spec, frontier.missing] at member
    omega
  have parts := Finset.card_sdiff_add_card_eq_card (row_subset spec frontier.row)
  rw [Nat.card_Ico] at parts
  rw [outside]
  omega

end Gap

section Filled

variable {α : Type}

/-- The slots of a table that hold something. -/
def heldSlots (table : AList fun _ : Nat => α) : Finset Nat := table.keys.toFinset

/-- The held slots are those of the table. -/
theorem mem_heldSlots {table : AList fun _ : Nat => α} {slot : Nat} :
    slot ∈ heldSlots table ↔ (table.lookup slot).isSome = true := by
  rw [heldSlots, List.mem_toFinset, ← AList.mem_keys, AList.lookup_isSome]

/-- There are as many of them as entries. -/
theorem card_heldSlots (table : AList fun _ : Nat => α) :
    (heldSlots table).card = table.entries.length := by
  -- No two entries share a slot.
  rw [heldSlots, List.toFinset_card_of_nodup table.keys_nodup]
  exact List.length_map _

/-- As many entries as a full row has are that row. -/
theorem heldSlots_eq_range {table : AList fun _ : Nat => α} {first count : Nat}
    (entries : table.entries.length = count)
    (full : ∀ index < count, (table.lookup (first + index)).isSome = true) :
    heldSlots table = Finset.Ico first (first + count) := by
  have filled : Finset.Ico first (first + count) ⊆ heldSlots table := by
    intro slot inside
    rw [Finset.mem_Ico] at inside
    -- A slot of the range is found at its distance from the first one.
    have found := full (slot - first) (by omega)
    have place : first + (slot - first) = slot := by omega
    rw [place] at found
    exact mem_heldSlots.mpr found
  -- Both sides have as many slots as there are entries.
  have enough : (heldSlots table).card ≤ (Finset.Ico first (first + count)).card := by
    rw [card_heldSlots, entries, Nat.card_Ico]
    omega
  exact (Finset.eq_of_subset_of_card_le filled enough).symm

/-- Reading a range of places one after the other gives what is found at each of them. -/
theorem mapM_range_eq_some {read : Nat → Option α} {count : Nat} {found : List α} :
    (List.range count).mapM read = some found ↔
      found.length = count ∧ ∀ index < count, read index = found[index]? := by
  -- A longer range is a shorter one and its last place.
  induction count generalizing found with
  | zero => simp [eq_comm]
  | succ count ih =>
    rw [List.range_succ, List.mapM_append]
    constructor
    · intro all
      -- The last place is read after the earlier ones.
      obtain ⟨front, earlier, rest⟩ := Option.bind_eq_some_iff.mp all
      obtain ⟨back, last, joined⟩ := Option.bind_eq_some_iff.mp rest
      simp only [List.mapM_cons, List.mapM_nil] at last
      obtain ⟨newest, read, single⟩ := Option.bind_eq_some_iff.mp last
      simp only [Option.pure_def, Option.bind_eq_bind, Option.bind_some, Option.some.injEq]
        at single joined
      obtain ⟨length, same⟩ := ih.mp earlier
      subst single joined
      refine ⟨by simp [length], ?_⟩
      intro index below
      by_cases inside : index < count
      · grind
      · have final : index = count := by omega
        rw [final, List.getElem?_append_right (by omega), length, Nat.sub_self]
        exact read
    · rintro ⟨length, same⟩
      -- The last thing found is split off the others.
      have front : (List.range count).mapM read = some (found.take count) := by grind
      have back : found = found.take count ++ [found[count]] := by
        rw [List.take_append_getElem, List.take_of_length_le (by omega)]
      have newest : read count = some found[count] := by
        rw [same count (by omega), List.getElem?_eq_getElem]
      rw [front, Option.bind_eq_bind, Option.bind_some]
      simp [newest, ← back]

end Filled

end ContextVm
