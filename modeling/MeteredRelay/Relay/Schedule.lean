import MeteredRelay.Relay.Event

/-!
# The schedule

When things happen to a running relay.  Connections are looked after at the start and at each tick
from then on, payments and listings at their own intervals; the listing interval has an extra
millisecond, so that every session is due each time.  A session that waits to be listed is listed at
the next millisecond, one in each.  Handshakes are answered as soon as nothing else is to be read.

Time passes in milliseconds.
-/

namespace MeteredRelay

/-- A relay and its timers. -/
structure Service where
  env : Environment
  relay : Relay
  /-- The moment at which the relay was started. -/
  started : Moment
  /-- The milliseconds since then. -/
  elapsed : Nat
  /-- Whether the relay was told to stop. -/
  stopped : Bool

namespace Service

/-- The present moment. -/
def now (s : Service) : Moment := s.started.after (Span.millis s.elapsed)

/-- The service after an event at the present moment. -/
def happen (s : Service) (e : Relay.Event) : Service := { s with relay := s.relay.step s.env s.now e }

/-- Takes the next session to be listed; where only periodic listings are sent, all are taken and
none is listed. -/
def takeForced (s : Service) : Service :=
  (List.range (s.relay.roster.forced.length)).foldl (fun s _ => s.happen .takeForced) s

/-- Answers the handshakes that wait and takes the next session to be listed. -/
def settle (s : Service) : Service :=
  ((List.range s.relay.handshakes.length).foldl (fun s _ => s.happen .greet) s).takeForced

/-- The service after datagrams that came at once. -/
def receiveAll (s : Service) (datagrams : List (SocketAddress × Bytes)) : Service :=
  (datagrams.foldl (fun s d => s.happen (.datagram d.1 d.2)) s).settle

/-- The service after a datagram. -/
def receive (s : Service) (sender : SocketAddress) (data : Bytes) : Service :=
  s.receiveAll [(sender, data)]

/-- Whether a timer of the given period is due after so many milliseconds. -/
def isDue (period : Span) (elapsed : Nat) : Bool :=
  period != 0 && 0 < elapsed && Span.millis elapsed % period == 0

/-- The period of listings: their interval and a millisecond. -/
def listingPeriod (s : Service) : Span := s.env.settings.listingInterval + Span.millis 1

/-- The service after an event, if that is due. -/
def happenIf (s : Service) (due : Bool) (e : Relay.Event) : Service := if due then s.happen e else s

/-- The service after everything that is due at the present millisecond. -/
def tick (s : Service) : Service :=
  let settings := s.env.settings
  (((((s.happen .listForced).happenIf (isDue settings.timeoutTick s.elapsed) .sweep).happenIf
    (isDue settings.paymentSweepInterval s.elapsed) .forgetPayments).happenIf
      (isDue s.listingPeriod s.elapsed) .listAll).takeForced)

/-- The service so many milliseconds later. -/
def advance (s : Service) : (millis : Nat) → Service
  | 0 => s
  | n + 1 => advance { s with elapsed := s.elapsed + 1 }.tick n

/-- A running service. -/
def start (env : Environment) (started : Moment) : Service :=
  ({ env, relay := .start, started, elapsed := 0, stopped := false } : Service).happen .sweep

/-- A service is started once. -/
def startAgain (_ : Service) : Except RelayFault Unit := .error .alreadyRunning

/-- The service told to stop. -/
def stop (s : Service) : Service := { s with stopped := true }

/-- How the service ended: a stop is no fault. -/
def outcome (_ : Service) : Except RelayFault Unit := .ok ()

end Service

end MeteredRelay
