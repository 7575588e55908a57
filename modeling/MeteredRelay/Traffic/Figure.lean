/-!
# Counters and gauges

A counter only grows and a gauge goes up and down; both have sixty-four bits and start again when
they overflow.
-/

namespace MeteredRelay

/-- A number that grows. -/
structure Counter where
  value : UInt64
deriving DecidableEq, Inhabited

namespace Counter

/-- Nothing counted yet. -/
def zero : Counter := ⟨0⟩

/-- Counts `n` more. -/
def add (c : Counter) (n : UInt64) : Counter := ⟨c.value + n⟩

/-- Counts one more. -/
def increment (c : Counter) : Counter := c.add 1

end Counter

/-- A number that goes up and down. -/
structure Gauge where
  value : Int64
deriving DecidableEq, Inhabited

namespace Gauge

/-- A gauge at zero. -/
def zero : Gauge := ⟨0⟩

/-- One more. -/
def increment (g : Gauge) : Gauge := ⟨g.value + 1⟩

/-- One fewer. -/
def decrement (g : Gauge) : Gauge := ⟨g.value - 1⟩

/-- The sum of several gauges. -/
def sum (gs : List Gauge) : Gauge := gs.foldl (fun a g => ⟨a.value + g.value⟩) zero

@[simp] theorem decrement_increment (g : Gauge) : g.increment.decrement = g := by
  simp [increment, decrement]

@[simp] theorem increment_decrement (g : Gauge) : g.decrement.increment = g := by
  simp [increment, decrement]

end Gauge

end MeteredRelay
