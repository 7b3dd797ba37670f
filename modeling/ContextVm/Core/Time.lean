import ContextVm.Core.Word

/-! Instants of the monotonic clock and durations, both as numbers of nanoseconds. -/

namespace ContextVm

namespace Duration

/-- Nanoseconds in one millisecond. -/
def nanosPerMilli : Nat := 1000000

/-- A duration of whole milliseconds. -/
def fromMillis (millis : Nat) : Nat := millis * nanosPerMilli

/-- A duration of whole seconds. -/
def fromSecs (secs : Nat) : Nat := fromMillis (secs * 1000)

/-- The whole milliseconds of a duration. -/
def asMillis (duration : Nat) : Nat := duration / nanosPerMilli

end Duration

namespace Instant

/-- The first instant that is too late to be held: its seconds do not fit a signed word. -/
def limit : Nat := Duration.fromSecs (2 ^ 63)

/-- The instant so much later, if it can be held. -/
def checkedAdd (instant duration : Nat) : Option Nat :=
  if instant + duration < limit then some (instant + duration) else none

end Instant

end ContextVm
