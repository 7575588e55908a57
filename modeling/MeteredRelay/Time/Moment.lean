import MeteredRelay.Text.Span

/-!
# Moments

The server has two clocks.  One counts nanoseconds and is never set; spans between its instants
say how long a client was silent.  The other is set by people and counts from 1970; cookies and
payments end by it.  A `Moment` is a reading of both.
-/

namespace MeteredRelay

/-- A reading of the clock that is never set, in nanoseconds. -/
abbrev Instant := Int

/-- The time from one instant to a later one; nothing if it is earlier. -/
def Instant.since (t earlier : Instant) : Nat := (t - earlier).toNat

/-- A reading of both clocks. -/
structure Moment where
  /-- The clock that is never set. -/
  instant : Instant
  /-- Nanoseconds since 1970. -/
  wall : Int
deriving DecidableEq, Inhabited

namespace Moment

/-- The largest signed number of sixty-four bits. -/
def maxSeconds : Nat := 0x7fffffffffffffff

/-- The whole seconds since 1970; none before it. -/
def unix (m : Moment) : Int64 := Int64.ofNat (min (m.wall / 1000000000).toNat maxSeconds)

/-- Both clocks a while later. -/
def after (m : Moment) (s : Span) : Moment := ⟨m.instant + s, m.wall + s⟩

end Moment

/-- A number of seconds in a signed word; one that does not fit is the nearest that does. -/
def saturated (n : Int) : Int64 := Int64.ofInt (max (-0x8000000000000000) (min n 0x7fffffffffffffff))

/-- The whole seconds of a span in a signed word. -/
def Span.toSignedSeconds (s : Span) : Int64 := saturated s.toSeconds

end MeteredRelay
