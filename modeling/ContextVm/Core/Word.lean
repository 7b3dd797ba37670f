import Mathlib.Algebra.Ring.Nat

/-! Arithmetic of unsigned 64-bit words, on natural numbers that stand for them. -/

namespace ContextVm

/-- The largest value of an unsigned 64-bit word. -/
def u64Max : Nat := 2 ^ 64 - 1

/-- The sum of two words, wrapped around at the word size. -/
def u64Add (left right : Nat) : Nat := (left + right) % 2 ^ 64

/-- The difference of two words, wrapped around at the word size. -/
def u64Sub (left right : Nat) : Nat := (left + (2 ^ 64 - right)) % 2 ^ 64

/-- A sum that fits is not reduced. -/
theorem u64Add_eq {left right : Nat} (fits : left + right < 2 ^ 64) :
    u64Add left right = left + right :=
  Nat.mod_eq_of_lt fits

/-- A difference that fits is not reduced. -/
theorem u64Sub_eq {left right : Nat} (ordered : right ≤ left) (word : left < 2 ^ 64) :
    u64Sub left right = left - right := by
  -- The added word size is what the remainder takes off again.
  unfold u64Sub
  omega

/-- The sum of two words where overflow checks are on, if it is a word. -/
def u64CheckedAdd (left right : Nat) : Option Nat :=
  if left + right ≤ u64Max then some (left + right) else none

/-- The difference of two words where overflow checks are on, if it is a word. -/
def u64CheckedSub (left right : Nat) : Option Nat :=
  if right ≤ left then some (left - right) else none

/-- A sum that fits passes the check. -/
theorem u64CheckedAdd_of_le {left right : Nat} (fits : left + right ≤ u64Max) :
    u64CheckedAdd left right = some (left + right) :=
  if_pos fits

/-- A sum that does not fit fails it. -/
theorem u64CheckedAdd_of_lt {left right : Nat} (wraps : u64Max < left + right) :
    u64CheckedAdd left right = none :=
  if_neg (Nat.not_le.mpr wraps)

/-- A difference that fits passes it. -/
theorem u64CheckedSub_of_le {left right : Nat} (ordered : right ≤ left) :
    u64CheckedSub left right = some (left - right) :=
  if_pos ordered

/-- Sums up to the largest word are not reduced. -/
theorem u64Add_of_le {left right : Nat} (fits : left + right ≤ u64Max) :
    u64Add left right = left + right := by
  apply u64Add_eq
  simp only [u64Max] at fits
  omega

end ContextVm
