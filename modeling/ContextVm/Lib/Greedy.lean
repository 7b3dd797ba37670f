import Mathlib.Data.List.Chain

/-! Lists cut into pieces of bounded size, each filled as far as it goes. -/

namespace ContextVm

variable {α : Type} {size : List α → Nat} {bound : Nat}

/-- Whether each piece has no room for what the next one begins with. -/
def Greedy (size : List α → Nat) (bound : Nat) (pieces : List (List α)) : Prop :=
  pieces.IsChain fun piece next => ∀ item ∈ next.head?, bound < size (piece ++ [item])

/-- A greedy cut stays ahead of every other one, so it has the fewest pieces. -/
theorem Greedy.length_le (additive : ∀ one two, size (one ++ two) = size one + size two)
    {pieces : List (List α)} (greedy : Greedy size bound pieces) (others : List (List α))
    (filled : ∀ piece ∈ pieces, piece ≠ []) (bounded : ∀ other ∈ others, size other ≤ bound)
    (ahead : pieces.flatten <:+ others.flatten) : pieces.length ≤ others.length := by
  induction pieces generalizing others with
  | nil => exact Nat.zero_le _
  | cons piece rest ih =>
    cases others with
    | nil => simp_all
    | cons other later =>
      refine Nat.succ_le_succ (ih greedy.tail later
        (fun next member => filled next (.tail _ member))
        (fun next member => bounded next (.tail _ member)) ?_)
      cases rest with
      | nil => exact List.nil_suffix
      | cons next rest =>
        obtain ⟨before, whole⟩ := ahead
        obtain ⟨item, tail, rfl⟩ := List.exists_cons_of_ne_nil (filled next (by simp))
        simp only [List.flatten_cons, List.cons_append] at whole ⊢
        refine List.suffix_of_suffix_length_le ⟨before ++ piece, by simpa using whole⟩
          (List.suffix_append other _) ?_
        -- Else the other piece would reach beyond the first item of the next one.
        by_contra behind
        have length := congrArg List.length whole
        simp only [List.length_append, List.length_cons] at length behind
        obtain ⟨more, reached⟩ : before ++ (piece ++ [item]) <+: other :=
          List.prefix_of_prefix_length_le (⟨tail ++ rest.flatten, by simpa using whole⟩)
            (List.prefix_append other later.flatten) (by simp; omega)
        have full := greedy.rel item rfl
        have fits := bounded other List.mem_cons_self
        rw [← reached, additive, additive] at fits
        omega

end ContextVm
