import MeteredRelay.Text.Span

/-!
# The histogram of delays

Each relayed message has a delay, which is counted in microseconds in the first bucket whose bound
it does not exceed; one more bucket takes the delays above every bound.
-/

namespace MeteredRelay

/-- Counts of delays by size. -/
structure Histogram where
  /-- How many delays each bucket holds. -/
  counts : List UInt64
  /-- The sum of all delays, in microseconds. -/
  sum : UInt64
  /-- How many delays there were. -/
  count : UInt64
deriving DecidableEq, Inhabited

namespace Histogram

/-- The largest delay of each bucket but the last, in microseconds. -/
def bounds : List Nat :=
  [1, 5, 50, 100, 250, 500, 750, 1000, 2500, 5000, 10000, 20000, 50000, 100000]

/-- No delay yet. -/
def empty : Histogram := ⟨List.replicate (bounds.length + 1) 0, 0, 0⟩

/-- The bucket of a delay of that many microseconds: as many bounds lie below it. -/
def bucket (micros : Nat) : Nat := bounds.countP (· < micros)

/-- The whole microseconds of a delay, as far as a word holds them. -/
def micros (delay : Span) : Nat := min delay.toMicros (UInt64.size - 1)

/-- One more delay. -/
def observe (h : Histogram) (delay : Span) : Histogram where
  counts := h.counts.modify (bucket (micros delay)) (· + 1)
  sum := h.sum + UInt64.ofNat (micros delay)
  count := h.count + 1

@[simp] theorem length_counts_observe (h : Histogram) (delay : Span) :
    (h.observe delay).counts.length = h.counts.length := by
  simp [observe]

/-- Every delay has a bucket. -/
theorem bucket_lt (n : Nat) : bucket n < empty.counts.length := by
  have : bucket n ≤ bounds.length := List.countP_le_length
  simp [empty]
  omega

end Histogram

end MeteredRelay
