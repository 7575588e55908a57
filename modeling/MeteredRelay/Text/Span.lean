/-!
# Spans of time as text

A span is a whole number of nanoseconds.  It is shown in the largest of the units second,
millisecond, microsecond and nanosecond that it reaches, with as many decimals as it needs and no
more.
-/

namespace MeteredRelay

/-- A span of time, in nanoseconds. -/
abbrev Span := Nat

namespace Span

/-- A span of whole seconds. -/
def seconds (n : Nat) : Span := n * 1000000000

/-- A span of whole milliseconds. -/
def millis (n : Nat) : Span := n * 1000000

/-- The whole seconds of a span. -/
def toSeconds (s : Span) : Nat := s / 1000000000

/-- The whole milliseconds of a span. -/
def toMillis (s : Span) : Nat := s / 1000000

/-- The whole microseconds of a span. -/
def toMicros (s : Span) : Nat := s / 1000

/-- The characters without the zeros at their end. -/
def dropZeros (cs : List Char) : List Char := (cs.reverse.dropWhile (· == '0')).reverse

/-- `n` units of `10 ^ places` parts each, as a decimal without superfluous zeros. -/
def inUnits (places n : Nat) : String :=
  let whole := n / Nat.pow 10 places
  let part := Nat.toDigits 10 (n % Nat.pow 10 places)
  let decimals := dropZeros (List.replicate (places - part.length) '0' ++ part)
  if decimals.isEmpty then s!"{whole}" else s!"{whole}." ++ String.ofList decimals

/-- The span in the largest unit that it reaches. -/
def text (s : Span) : String :=
  if 1000000000 ≤ s then inUnits 9 s ++ "s"
  else if 1000000 ≤ s then inUnits 6 s ++ "ms"
  else if 1000 ≤ s then inUnits 3 s ++ "µs"
  else s!"{s}ns"

end Span

end MeteredRelay
