import Mathlib.Algebra.Ring.Int.Defs
import Mathlib.Tactic.Common
import MeteredRelay.Time.Moment

/-!
# Spans and seconds

From an instant to one that is not earlier it is as long as their difference
(`Instant.since_eq`).  Sums and differences of seconds are kept in a signed word; one that does not
fit counts as the nearest that does (**`toInt_saturated`**).  The clock never shows a second before
1970 (`Moment.unix_nonneg`).
-/

namespace MeteredRelay

lemma Instant.since_eq {t earlier : Instant} (h : earlier ≤ t) :
    (t.since earlier : Int) = t - earlier :=
  Int.toNat_of_nonneg (Int.sub_nonneg.mpr h)

/-- A number of seconds is brought into the range of a signed word. -/
lemma toInt_saturated (n : Int) :
    (saturated n).toInt = max (-2 ^ 63) (min n (2 ^ 63 - 1)) := by
  have hsize : Int64.size = 2 ^ 64 := rfl
  rw [saturated, Int64.toInt_ofInt, Int.bmod_eq_of_le] <;> omega

/-- The seconds of a span, as far as a signed word holds them. -/
lemma toInt_toSignedSeconds (s : Span) :
    s.toSignedSeconds.toInt = min (s.toSeconds : Int) (2 ^ 63 - 1) := by
  rw [Span.toSignedSeconds, toInt_saturated]
  omega

lemma Moment.unix_nonneg (m : Moment) : 0 ≤ m.unix.toInt := by
  have hmax : Moment.maxSeconds = 2 ^ 63 - 1 := rfl
  rw [Moment.unix, Int64.toInt_ofNat_of_lt (by omega)]
  exact Int.natCast_nonneg _

end MeteredRelay
