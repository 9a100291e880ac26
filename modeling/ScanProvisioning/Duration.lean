namespace ScanProvisioning

/-- Spans are shorter than this many nanoseconds, which are 2^64 seconds. -/
abbrev Duration.limit : Nat := 18446744073709551616000000000

/-- A span of time with nanosecond resolution. The sum of two spans can leave the range. -/
@[ext] structure Duration where
  nanos : Nat
  inRange : nanos < Duration.limit
  deriving DecidableEq

namespace Duration

instance : LE Duration := ⟨fun a b => a.nanos ≤ b.nanos⟩

instance : LT Duration := ⟨fun a b => a.nanos < b.nanos⟩

instance (a b : Duration) : Decidable (a ≤ b) := inferInstanceAs (Decidable (a.nanos ≤ b.nanos))

instance (a b : Duration) : Decidable (a < b) := inferInstanceAs (Decidable (a.nanos < b.nanos))

instance : Min Duration := ⟨fun a b => if a ≤ b then a else b⟩

instance : Max Duration := ⟨fun a b => if a ≤ b then b else a⟩

def zero : Duration := ⟨0, by decide⟩

instance : Inhabited Duration := ⟨zero⟩

def ofSeconds (s : UInt64) : Duration :=
  ⟨s.toNat * 1000000000, by have := s.toNat_lt; unfold limit; omega⟩

def ofMillis (ms : UInt64) : Duration :=
  ⟨ms.toNat * 1000000, by have := ms.toNat_lt; unfold limit; omega⟩

/-- Whole seconds, rounded down. -/
def seconds (d : Duration) : Nat := d.nanos / 1000000000

/-- Whole milliseconds, rounded down. -/
def millis (d : Duration) : Nat := d.nanos / 1000000

def ofNanos? (n : Nat) : Option Duration :=
  if h : n < limit then some ⟨n, h⟩ else none

def longest : Duration := ⟨limit - 1, by decide⟩

/-- A count of nanoseconds, cut off at the longest span. -/
def ofNanos (n : Nat) : Duration := (ofNanos? n).getD longest

def add? (a b : Duration) : Option Duration := ofNanos? (a.nanos + b.nanos)

/-- The nearest span to `d` that is at least `low` and at most `high`. -/
def clamp (d low high : Duration) : Duration := if d < low then low else if high < d then high else d

theorem seconds_ofSeconds (s : UInt64) : (ofSeconds s).seconds = s.toNat := by
  simp [seconds, ofSeconds]

theorem add?_eq_none_iff (a b : Duration) :
    a.add? b = none ↔ limit ≤ a.nanos + b.nanos := by
  simp [add?, ofNanos?]

end Duration

end ScanProvisioning
