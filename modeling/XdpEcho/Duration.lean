/-!
# Spans of time

A span of time in whole nanoseconds.
-/

namespace XdpEcho

/-- A span of time, never negative. -/
structure Duration where
  nanoseconds : Nat
  deriving DecidableEq

namespace Duration

def ofParts (seconds nanoseconds : Nat) : Duration :=
  ⟨1000000000 * seconds + nanoseconds⟩

def ofMilliseconds (milliseconds : Nat) : Duration :=
  ⟨1000000 * milliseconds⟩

def seconds (d : Duration) : Nat := d.nanoseconds / 1000000000

/-- What is left of a span beside its whole seconds, in nanoseconds. -/
def subsecond (d : Duration) : Nat := d.nanoseconds % 1000000000

def milliseconds (d : Duration) : Nat := d.nanoseconds / 1000000

/-- The span from one moment to a later one, and zero when the second is not later. -/
def between (earlier later : Duration) : Duration :=
  ⟨later.nanoseconds - earlier.nanoseconds⟩

end Duration

end XdpEcho
