import Mathlib.Algebra.GroupWithZero.Nat
import Mathlib.Algebra.Ring.Int.Defs
import Mathlib.Tactic.Common
import MeteredRelay.Traffic.Figure

/-!
# What gauges read

A gauge is a signed word that starts again when it overflows, so it tells a number only up to
multiples of what a word holds.  `Gauge.Reads` says that it does, and going up and down keeps this
for numbers of any size.  A number that a word holds is told exactly (**`Reads.toInt_eq`**).
-/

namespace MeteredRelay

namespace Gauge

/-- The gauge shows a number, as far as a word holds it. -/
def Reads (g : Gauge) (n : Int) : Prop := g.value = Int64.ofInt n

variable {g : Gauge} {n : Int}

lemma reads_zero : zero.Reads 0 := rfl

lemma reads_toInt (g : Gauge) : g.Reads g.value.toInt := (Int64.ofInt_toInt g.value).symm

namespace Reads

lemma increment (h : g.Reads n) : g.increment.Reads (n + 1) := by
  rw [Reads, Int64.ofInt_add, ← h]
  rfl

lemma decrement (h : g.Reads n) : g.decrement.Reads (n - 1) := by
  rw [Reads, Int64.ofInt_sub, ← h]
  rfl

/-- **A gauge is exact as long as the number fits in a word.** -/
theorem toInt_eq (h : g.Reads n) (hlow : -2 ^ 63 ≤ n) (hhigh : n < 2 ^ 63) : g.value.toInt = n := by
  rw [h, Int64.toInt_ofInt_of_le hlow hhigh]

/-- Two gauges differ by as much as the numbers that they show. -/
lemma value_eq_add {g' : Gauge} {m : Int} (h : g.Reads n) (h' : g'.Reads m) :
    g'.value = g.value + Int64.ofInt (m - n) := by
  rw [h, h', ← Int64.ofInt_add, add_sub_cancel]

lemma eq_zero (h : g.Reads 0) : g = zero := by
  cases g
  cases h
  rfl

/-- A gauge does not show a number and the next. -/
lemma not_succ (h : g.Reads n) : ¬ g.Reads (n + 1) := by
  intro h'
  rw [Reads, Int64.ofInt_add, ← h] at h'
  have hone : (1 : Int64) = 0 := by
    simpa using h'.symm
  exact absurd hone (by decide)

end Reads

end Gauge

end MeteredRelay
