import NodeCanvas.Decimal.Binary
/-!
# Spans and instants

Spans of time and instants are whole numbers of nanoseconds, instants counted from the start of a
run. Spans meet floats in two places, where a span is measured in seconds and where a number of
seconds becomes a span; the latter takes the nearest nanosecond, the even one of two, and fails for
spans of `2 ^ 64` seconds or more.
-/

namespace NodeCanvas

/-- A length of time in nanoseconds. -/
abbrev Span := Nat

/-- A point in time in nanoseconds from the start. -/
abbrev Instant := Nat

namespace Span

def ofMillis (ms : Nat) : Span := ms * 1000000

def ofSeconds (s : Nat) : Span := s * 1000000000

def wholeSeconds (d : Span) : Nat := d / 1000000000

/-- The span in seconds. -/
def toSeconds (d : Span) : Float :=
  Float.ofNat (d / 1000000000) + Float.ofNat (d % 1000000000) / 1000000000.0

/-- The span of a number of seconds from zero up, if it is short enough. -/
def ofSeconds? (seconds : Float) : Option Span := do
  let exact ← Binary.ofFloat? seconds
  let nanos := (exact.ratio.scale 1000000000).roundEven
  guard (exact.mantissa = 0 ∨ !exact.negative)
  guard (nanos < Nat.pow 2 64 * 1000000000)
  return nanos

end Span

end NodeCanvas
