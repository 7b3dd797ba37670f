import Mathlib.Data.List.Basic

/-! Texts that say themselves where they end, so that they can be put one after the other. -/

namespace ContextVm

section Delimited

variable {α β : Type}

/-- The items of a list, each after a mark, and another mark at the end. -/
def delimited (text : α → List Char) : List α → List Char
  | [] => ['.']
  | item :: rest => ',' :: (text item ++ delimited text rest)

/-- A text that is read off the front of a longer one in only one way. -/
def SelfDelimiting (text : α → List Char) : Prop :=
  ∀ one other rest more, text one ++ rest = text other ++ more → one = other ∧ rest = more

/-- Single characters need no delimiter. -/
theorem selfDelimiting_singleton : SelfDelimiting fun char => [char] := by
  intro one other rest more same
  exact List.cons.inj same

/-- Texts of images tell the originals apart. -/
theorem SelfDelimiting.comp {text : β → List Char} (single : SelfDelimiting text) {image : α → β}
    (injective : ∀ one other, image one = image other → one = other) :
    SelfDelimiting fun item => text (image item) := by
  grind [SelfDelimiting]

/-- A list with its marks delimits itself. -/
theorem SelfDelimiting.delimited {text : α → List Char} (single : SelfDelimiting text) :
    SelfDelimiting (delimited text) := by
  -- The marks tell whether there is another item, which is then read off the front.
  intro one
  induction one with
  | nil =>
    intro other rest more same
    cases other with
    | nil => exact ⟨rfl, (List.cons.inj same).2⟩
    | cons item left => cases (List.cons.inj same).1
  | cons item left ih =>
    intro other rest more same
    cases other with
    | nil => cases (List.cons.inj same).1
    | cons head tail =>
      simp only [ContextVm.delimited, List.cons_append, List.append_assoc, List.cons.injEq,
        true_and] at same
      obtain ⟨rfl, lefts⟩ := single _ _ _ _ same
      obtain ⟨rfl, rests⟩ := ih _ _ _ lefts
      exact ⟨rfl, rests⟩

/-- Equal texts stand for equal items. -/
theorem SelfDelimiting.injective {text : α → List Char} (single : SelfDelimiting text)
    {one other : α} (same : text one = text other) : one = other :=
  (single one other [] [] (by rw [same])).1

end Delimited

end ContextVm
