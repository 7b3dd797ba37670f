import Mathlib.Data.List.Induction

/-! Histories of a component: the calls made on it, each on what the one before it left. -/

namespace ContextVm

section History

variable {σ ι γ : Type}

/-- What is noted of each call, made in order on what the one before left behind. -/
def history (after : σ → ι → σ) (note : σ → ι → γ) : σ → List ι → List γ
  | _, [] => []
  | state, input :: rest => note state input :: history after note (after state input) rest

variable {after : σ → ι → σ} {note : σ → ι → γ}

/-- The history of two parts is that of one after the other. -/
theorem history_append (state : σ) (earlier later : List ι) :
    history after note state (earlier ++ later) =
      history after note state earlier ++ history after note (earlier.foldl after state) later := by
  -- The state changes from call to call, so it is general.
  induction earlier generalizing state with
  | nil => rfl
  | cons first rest ih => simp [history, ih]

/-- The last call is noted on the state it is made on. -/
theorem history_concat (state : σ) (earlier : List ι) (input : ι) :
    history after note state (earlier ++ [input]) =
      history after note state earlier ++ [note (earlier.foldl after state) input] :=
  history_append state earlier [input]

/--
A history splits at each of its calls.

What comes before the call is the history of the inputs before it, on whose end state it was made.
-/
theorem history_split {state : σ} {inputs : List ι} {earlier later : List γ} {call : γ}
    (split : history after note state inputs = earlier ++ call :: later) :
    ∃ first input, earlier = history after note state first ∧
      call = note (first.foldl after state) input ∧ ∃ rest, inputs = first ++ input :: rest := by
  -- Walk to the call at which the history is split.
  induction inputs generalizing state earlier with
  | nil => simp [history] at split
  | cons input rest ih =>
    cases earlier with
    | nil =>
      -- The call is the first one, made on the starting state.
      simp only [history, List.nil_append, List.cons.injEq] at split
      exact ⟨[], input, rfl, split.1.symm, rest, rfl⟩
    | cons head tail =>
      simp only [history, List.cons_append, List.cons.injEq] at split
      obtain ⟨first, made, same, noted, left, inputs⟩ := ih split.2
      refine ⟨input :: first, made, ?_, noted, left, by rw [inputs]; rfl⟩
      rw [← split.1, same]
      rfl

/-- What holds at each place holds wherever the list is split. -/
theorem forall_split {elements : List γ} {holds : List γ → γ → Prop}
    (placed : ∀ place < elements.length, ∀ element ∈ elements[place]?,
      holds (elements.take place) element) (earlier : List γ) (element : γ) (later : List γ)
    (split : elements = earlier ++ element :: later) : holds earlier element := by
  -- The element stands at the place that has as many elements before it.
  subst split
  have here := placed earlier.length (by simp) element (by simp)
  rw [List.take_left'] at here
  · exact here
  · rfl

/-- What does not hold of every element and those before it fails somewhere for the first time. -/
theorem exists_first_failure {elements : List γ} {holds : List γ → γ → Prop}
    (fails : ¬∀ earlier element later, elements = earlier ++ element :: later →
      holds earlier element) :
    ∃ earlier element later, elements = earlier ++ element :: later ∧ ¬holds earlier element ∧
      ∀ before other between, earlier = before ++ other :: between → holds before other := by
  -- Over prefixes: the first failure of a longer list is that of its front, or its end.
  induction elements using List.reverseRecOn with
  | nil => exact absurd (fun earlier element later split => by simp at split) fails
  | append_singleton front last ih =>
    by_cases all : ∀ earlier element later, front = earlier ++ element :: later →
        holds earlier element
    · -- It holds of all but the last element, so it fails of that one.
      refine ⟨front, last, [], rfl, ?_, all⟩
      intro final
      apply fails
      intro earlier element later split
      rcases List.eq_nil_or_concat later with none | ⟨between, newest, more⟩
      · grind [List.append_inj']
      · grind [List.append_assoc, List.append_inj']
    · grind

/-- What every call keeps holds of the whole history. -/
theorem history_invariant {kept : List γ → σ → Prop} (state : σ) (initially : kept [] state)
    (preserved : ∀ calls before input, kept calls before →
      kept (calls ++ [note before input]) (after before input)) (inputs : List ι) :
    kept (history after note state inputs) (inputs.foldl after state) := by
  -- One more call at the end each time.
  induction inputs using List.reverseRecOn with
  | nil => exact initially
  | append_singleton earlier input ih => grind [history_concat]

end History

end ContextVm
