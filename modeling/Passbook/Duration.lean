/-! # Durations

Spans of time to the nanosecond. What is configured comes in milliseconds; what is told to the
database is the number of whole milliseconds. -/

namespace Passbook

structure Duration where
  nanos : Nat
  deriving DecidableEq, Repr

namespace Duration

def ofMillis (millis : Nat) : Duration := ⟨millis * 1000000⟩

/-- The number of whole milliseconds in the span. -/
def millis (duration : Duration) : Nat := duration.nanos / 1000000

theorem millis_ofMillis (millis : Nat) : (ofMillis millis).millis = millis := by
  simp [ofMillis, Duration.millis]

end Duration

end Passbook
