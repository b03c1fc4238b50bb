/-!
# Durations

Spans of time in whole nanoseconds.  Seconds as a floating-point number are
the whole seconds and the fraction of a second, each rounded, added up.
-/

namespace ConferenceFocus

structure Duration where
  nanoseconds : Nat
  deriving DecidableEq, Repr

namespace Duration

def ofMilliseconds (count : Nat) : Duration := ⟨count * 1000000⟩

def ofMicroseconds (count : Nat) : Duration := ⟨count * 1000⟩

def ofSeconds (seconds nanoseconds : Nat) : Duration :=
  ⟨seconds * 1000000000 + nanoseconds⟩

/-- Whole milliseconds; what is left over is dropped. -/
def milliseconds (duration : Duration) : Nat := duration.nanoseconds / 1000000

/-- Whole microseconds; what is left over is dropped. -/
def microseconds (duration : Duration) : Nat := duration.nanoseconds / 1000

/-- The whole seconds, and the fraction of a second, as a number. -/
def seconds (duration : Duration) : Float :=
  (UInt64.ofNat (duration.nanoseconds / 1000000000)).toFloat
    + (UInt64.ofNat (duration.nanoseconds % 1000000000)).toFloat / 1000000000

end Duration

end ConferenceFocus
