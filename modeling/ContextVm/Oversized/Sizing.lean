import Mathlib.Order.Bounds.Basic
import ContextVm.Core.Word
import ContextVm.Oversized.Frame

/-! The size of the pieces a message is cut into: the largest whose published frame fits. -/

namespace ContextVm

/-- The token a probe frame is sent under. -/
def sizingProbeToken : String := "00000000-0000-0000-0000-000000000000"

/-- The slot of a probe frame. -/
def sizingProbeProgress : UInt64 := 2

/-- A chunk frame of so many characters that take the most room in JSON. -/
def sizingProbe (size : Nat) : JsonRpcNotification :=
  (OversizedFrame.chunk (String.ofList (List.replicate size '\\'))).intoProgressNotification
    sizingProbeToken sizingProbeProgress none

/-- Whether the event of a probe frame could be built and fits. -/
def probeFits (measurePublishedEventSize : JsonRpcNotification → Option Nat)
    (maxEventBytes size : Nat) : Bool :=
  (measurePublishedEventSize (sizingProbe size)).any (· ≤ maxEventBytes)

/-- Search between two sizes with so many measurements at most, and with overflow checks on. -/
def searchSize (fits : Nat → Bool) : Nat → Nat → Nat → Nat → Option Nat
  | 0, low, high, best => if low ≤ high then none else some best
  | measurements + 1, low, high, best =>
    if low ≤ high then
      (u64CheckedSub high low).bind fun span =>
      (u64CheckedAdd low (span / 2)).bind fun mid =>
      if fits mid then
        (u64CheckedAdd mid 1).bind fun low => searchSize fits measurements low high mid
      -- A size that is too large is searched below.
      else (u64CheckedSub mid 1).bind fun high => searchSize fits measurements low high best
    else some best

/-- Find the largest size up to a desired one, but one at least. -/
def resolveSafeChunkSize (measurePublishedEventSize : JsonRpcNotification → Option Nat)
    (desired maxEventBytes measurements : Nat) : Option Nat :=
  searchSize (probeFits measurePublishedEventSize maxEventBytes) measurements 1 (max desired 1) 1

/-- The largest size in a range that fits, or one when none does. -/
def IsSafeSize (fits : Nat → Bool) (top size : Nat) : Prop :=
  IsGreatest {size | 1 ≤ size ∧ size ≤ top ∧ fits size = true} size ∨
    size = 1 ∧ ∀ size, 1 ≤ size → size ≤ top → fits size = false

/-- What a search knows: its best size, and that nothing above its range fits. -/
structure Narrowed (fits : Nat → Bool) (top low high best : Nat) : Prop where
  inside : 1 ≤ low ∧ high ≤ top
  best : best = 1 ∧ low = 1 ∨ best + 1 = low ∧ 1 ≤ best ∧ best ≤ top ∧ fits best = true
  above : ∀ size, high < size → size ≤ top → fits size = false

variable {fits : Nat → Bool} {top low high best : Nat}

/-- When nothing is left to search, the best size is safe. -/
theorem Narrowed.safe (narrowed : Narrowed fits top low high best) (done : high < low) :
    IsSafeSize fits top best := by
  obtain ⟨inside, tried, above⟩ := narrowed
  rcases tried with ⟨rfl, rfl⟩ | ⟨next, positive, below, fit⟩
  · exact .inr ⟨rfl, fun size one => above size (by omega)⟩
  · refine .inl ⟨⟨positive, below, fit⟩, ?_⟩
    rintro size ⟨-, within, larger⟩
    by_contra beyond
    simp [above size (by omega) within] at larger

/-- Each measurement halves the range that is left. -/
theorem Narrowed.searchSize (narrowed : Narrowed fits top low high best) (small : top < u64Max)
    (monotone : ∀ one two, 1 ≤ one → one ≤ two → two ≤ top → fits two = true → fits one = true)
    {measurements : Nat} (enough : high + 1 - low < 2 ^ measurements) :
    ∃ size, searchSize fits measurements low high best = some size ∧ IsSafeSize fits top size := by
  induction measurements generalizing low high best with
  | zero =>
    have done : high < low := by omega
    exact ⟨best, if_neg (Nat.not_le.mpr done), narrowed.safe done⟩
  | succ measurements ih =>
    obtain ⟨inside, tried, above⟩ := id narrowed
    rw [ContextVm.searchSize]
    split
    · rename_i more
      have middle : low + (high - low) / 2 ≤ high := by omega
      rw [u64CheckedSub_of_le more, Option.bind_some, u64CheckedAdd_of_le (by omega),
        Option.bind_some]
      generalize middleEq : low + (high - low) / 2 = mid at middle
      split
      · rename_i fit
        rw [u64CheckedAdd_of_le (by omega), Option.bind_some]
        exact ih ⟨⟨by omega, inside.2⟩, .inr ⟨rfl, by omega, by omega, fit⟩, above⟩ (by omega)
      · rename_i large
        rw [u64CheckedSub_of_le (by omega), Option.bind_some]
        refine ih ⟨⟨inside.1, by omega⟩, tried, fun size beyond within => ?_⟩ (by omega)
        exact Bool.eq_false_iff.mpr fun fit =>
          large (monotone mid size (by omega) (by omega) within fit)
    · exact ⟨best, rfl, narrowed.safe (by omega)⟩

/-- The search takes the logarithm of the desired size, never overflows, and finds the largest. -/
theorem resolveSafeChunkSize_largest (measurePublishedEventSize : JsonRpcNotification → Option Nat)
    (desired maxEventBytes measurements : Nat) (small : desired < u64Max)
    (monotone : ∀ one two, 1 ≤ one → one ≤ two → two ≤ max desired 1 →
      probeFits measurePublishedEventSize maxEventBytes two = true →
        probeFits measurePublishedEventSize maxEventBytes one = true)
    (enough : Nat.log2 (max desired 1) + 1 ≤ measurements) :
    ∃ size, resolveSafeChunkSize measurePublishedEventSize desired maxEventBytes measurements =
        some size ∧
      IsSafeSize (probeFits measurePublishedEventSize maxEventBytes) (max desired 1) size := by
  have narrowed : Narrowed (probeFits measurePublishedEventSize maxEventBytes) (max desired 1) 1
      (max desired 1) 1 :=
    ⟨⟨Nat.le_refl 1, Nat.le_refl _⟩, .inl ⟨rfl, rfl⟩, by omega⟩
  have word : max desired 1 < u64Max := by
    simp only [u64Max] at small ⊢
    omega
  have range : max desired 1 < 2 ^ measurements :=
    Nat.lt_of_lt_of_le Nat.lt_log2_self (Nat.pow_le_pow_right Nat.two_pos enough)
  exact narrowed.searchSize word monotone (by omega)

/-- A measurement that counts the bytes of the chunk alone. -/
def chunkBytes (notification : JsonRpcNotification) : Option Nat :=
  (((notification.params.bind (·.get "cvm")).bind (·.get "data")).bind Json.asStr).map
    String.utf8ByteSize

/-- Of three sizes the second is the largest that fits into two bytes. -/
theorem resolveSafeChunkSize_two : resolveSafeChunkSize chunkBytes 3 2 2 = some 2 ∧
    IsSafeSize (probeFits chunkBytes 2) 3 2 := by
  have found : resolveSafeChunkSize chunkBytes 3 2 2 = some 2 := by decide +kernel
  obtain ⟨size, same, safe⟩ := resolveSafeChunkSize_largest chunkBytes 3 2 2 (by decide)
    (by
      intro one two positive ordered within fit
      have cases : one = 1 ∨ one = 2 ∨ two = 3 := by omega
      rcases cases with rfl | rfl | rfl
      · decide +kernel
      · decide +kernel
      · exact absurd fit (by decide +kernel))
    (by decide)
  cases found.symm.trans same
  exact ⟨found, safe⟩

end ContextVm
