import Icap.Time.Duration

/-!
# Instants

Points in time, counted in nanoseconds from the start of the clock. The clock holds whole seconds
in a signed 64 bit number, so a deadline may lie beyond its end; such a deadline never passes.
-/

namespace Icap

/-- A point in time in nanoseconds after the start of the clock. -/
abbrev Instant := Nat

namespace Instant

/-- The first instant that the clock cannot tell. -/
def bound : Nat := UInt64.size / 2 * 1000000000

/-- The instant a duration later, if the clock can tell it. -/
def after? (t : Instant) (d : Duration) : Option Instant :=
  if t + d < bound then some (t + d) else none

theorem isSome_after? {t : Instant} {d : Duration} :
    (t.after? d).isSome = true ↔ t + d < bound := by
  rw [after?]
  split <;> simp_all

end Instant

/-- The time up to which something may take. -/
abbrev Deadline := Option Instant

namespace Deadline

/-- Whether a deadline has passed. -/
def isPast (d : Deadline) (now : Instant) : Bool := d.any fun t => t ≤ now

end Deadline

end Icap
