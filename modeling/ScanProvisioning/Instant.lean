import ScanProvisioning.Duration

namespace ScanProvisioning

/-- A point on a clock that only goes forward, in nanoseconds since an origin. -/
abbrev Instant := Nat

namespace Instant

def after? (now : Instant) (d : Duration) : Option Instant :=
  if (now + d.nanos) / 1000000000 < 9223372036854775808 then some (now + d.nanos) else none

def farAhead : Duration := .ofSeconds (86400 * 365 * 30)

/-- When a wait that starts now ends; a wait past every instant lasts thirty years. -/
def endOfWait (now : Instant) (d : Duration) : Instant :=
  (after? now d).getD (now + farAhead.nanos)

end Instant

/-- How a run of a program ends. -/
inductive Ending (α : Type)
  | value (a : α)
  /-- Its deadline passed while it was waiting. -/
  | cut
  /-- An instant or a span of time left its range. -/
  | overflow
  /-- It was still busy after all the steps it was given. -/
  | unending

end ScanProvisioning
