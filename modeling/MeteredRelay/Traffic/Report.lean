import MeteredRelay.Text.Lines
import MeteredRelay.Text.Scaled
import MeteredRelay.Text.Span

/-!
# The traffic report

Every few seconds the server tells what went in and out since the last report: bytes and messages,
each also a second.  It is silent when nothing moved.
-/

namespace MeteredRelay

/-- What went in and out so far. -/
structure TrafficTotals where
  bytesRead : UInt64
  messagesRead : UInt64
  bytesWritten : UInt64
  messagesWritten : UInt64
deriving DecidableEq, Inhabited

namespace TrafficTotals

/-- What was added since an earlier total; nothing where the later one is smaller. -/
def growth (earlier later : UInt64) : UInt64 := if earlier ≤ later then later - earlier else 0

/-- What was added to every total since. -/
def since (now earlier : TrafficTotals) : TrafficTotals where
  bytesRead := growth earlier.bytesRead now.bytesRead
  messagesRead := growth earlier.messagesRead now.messagesRead
  bytesWritten := growth earlier.bytesWritten now.bytesWritten
  messagesWritten := growth earlier.messagesWritten now.messagesWritten

/-- Nothing moved. -/
def isIdle (t : TrafficTotals) : Bool := t == default

/-- A span in seconds. -/
def secondsOf (s : Span) : Float :=
  (UInt64.ofNat s.toSeconds).toFloat + (UInt64.ofNat (s % 1000000000)).toFloat / 1000000000.0

/-- Bytes and messages of one direction, each with its rate. -/
def direction (bytes messages : UInt64) (secs : Float) : String :=
  let byteRate := Text.padStart 7 (Scaled.rate (bytes.toFloat / secs))
  let messageRate := Text.padStart 7 (Scaled.rate (messages.toFloat / secs))
  s!"{Text.padStart 8 (Scaled.bytes bytes)} ({byteRate}B/sec) " ++
    s!"{Text.padStart 8 (Scaled.count messages)} Pkt ({messageRate}/sec)"

/-- The span that a report names: whole milliseconds, as far as a word holds them. -/
def reportedSpan (s : Span) : Span := Span.millis (min s.toMillis (UInt64.size - 1))

/-- The line about what moved during a span, if anything did. -/
def report (earlier now : TrafficTotals) (during : Span) : Option String :=
  let t := now.since earlier
  if t.isIdle || during == 0 then none
  else
    let secs := secondsOf during
    some (s!"Stats for the last {(reportedSpan during).text} - " ++
      s!"IN: {direction t.bytesRead t.messagesRead secs} ; " ++
      s!"OUT: {direction t.bytesWritten t.messagesWritten secs}")

end TrafficTotals

end MeteredRelay
