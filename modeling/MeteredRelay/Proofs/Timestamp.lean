import Mathlib.Tactic.Common
import MeteredRelay.Proofs.Clock
import MeteredRelay.Time.Timestamp

/-!
# Timestamps at the ends of their range

A timestamp keeps an instant in one word, with zero for unset, so its range is from the base to
`2 ^ 64 - 2` nanoseconds after it.  Read timeouts and the spacing of pings rest on what comes back:
an instant outside the range should come back as the nearest one inside (`Timestamp.held`), and
something that was stored should never come back as unset.

**`load_store_iff`** says that this is so of every instant but one.  The distance to the base is
compared with what a word holds before one is added to it, and not after, so the first instant past
the range passes as one inside it, and adding one gives the word of an unset timestamp.  That
instant lies 584 years after the base, which is when a client was first heard, so no clock that a
server reads shows it.
-/

namespace MeteredRelay

namespace Timestamp

variable {s : Timestamp} {t : Instant}

/-- The time from the base to an instant; negative for one before the base. -/
def distance (s : Timestamp) (t : Instant) : Int := t - s.base

/-- The instant of the range that is nearest to `t`. -/
def held (s : Timestamp) (t : Instant) : Instant :=
  s.base + max 0 (min (s.distance t) (2 ^ 64 - 2))

lemma since_base : t.since s.base = (s.distance t).toNat := rfl

/-- An instant that is not past the range is stored without overflow. -/
lemma load_store_of_lt (h : s.distance t < 2 ^ 64 - 1) : (s.store t).load = some (s.held t) := by
  have hsize : UInt64.size = 2 ^ 64 := rfl
  have hfits : t.since s.base < UInt64.size - 1 := by
    rw [since_base]
    omega
  have hclamped : (t.since s.base : Int) = max 0 (min (s.distance t) (2 ^ 64 - 2)) := by
    rw [since_base]
    omega
  rw [load_store s t hfits, hclamped, held]

/-- An instant whose distance does not fit a word is stored as the last one of the range. -/
lemma load_store_of_le (h : 2 ^ 64 ≤ s.distance t) : (s.store t).load = some (s.held t) := by
  have hsize : UInt64.size = 2 ^ 64 := rfl
  have hpast : ¬ t.since s.base < UInt64.size := by
    rw [since_base]
    omega
  have hcode : (s.store t).code = 0xffffffffffffffff := by
    rw [store, encode, if_neg hpast]
    rfl
  have hlast : max 0 (min (s.distance t) (2 ^ 64 - 2)) = 2 ^ 64 - 2 := by omega
  rw [load, hcode, held, hlast]
  rfl

/-- A distance that fits a word until one is added to it is stored as the word for unset. -/
lemma load_store_of_eq (h : s.distance t = 2 ^ 64 - 1) : (s.store t).load = none := by
  have hsince : t.since s.base = 0xffffffffffffffff := by
    rw [since_base, h]
    rfl
  have hcode : (s.store t).code = 0 := by
    rw [store, encode, hsince]
    rfl
  rw [load, hcode]
  rfl

/-- **What was stored is read back, with one exception.**  After an instant was stored, with or
without reading what was there before, the nearest one of the range is read, unless the instant is
the first one past the range: this and no other overflows the word and is read as unset. -/
theorem load_store_iff (s : Timestamp) (t : Instant) :
    (s.swap t).2 = s.store t ∧
      ((s.store t).load = some (s.held t) ↔ s.distance t ≠ 2 ^ 64 - 1) ∧
      ((s.store t).load = none ↔ s.distance t = 2 ^ 64 - 1) := by
  by_cases hpast : s.distance t = 2 ^ 64 - 1
  · have hunset : (s.store t).load = none := load_store_of_eq hpast
    exact ⟨rfl, iff_of_false (by simp [hunset]) (not_not_intro hpast), iff_of_true hunset hpast⟩
  · have hset : (s.store t).load = some (s.held t) := by
      by_cases hlt : s.distance t < 2 ^ 64 - 1
      · exact load_store_of_lt hlt
      · exact load_store_of_le (by omega)
    exact ⟨rfl, iff_of_true hset hpast, iff_of_false (by simp [hset]) hpast⟩

end Timestamp

end MeteredRelay
