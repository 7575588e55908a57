import MeteredRelay.Relay.Receive
import MeteredRelay.Relay.Upkeep

/-!
# Events

Everything that happens to a running relay is one of seven events at a moment.  A run is a list of
them; what the relay does is a function of its environment and of the run.
-/

namespace MeteredRelay

namespace Relay

/-- What may happen to a running relay. -/
inductive Event where
  /-- A datagram comes from an address. -/
  | datagram (sender : SocketAddress) (data : Bytes)
  /-- The handshake that waits longest is answered. -/
  | greet
  /-- Connections that are silent or misbehave are dropped. -/
  | sweep
  /-- Payments that have ended are forgotten. -/
  | forgetPayments
  /-- Every session is listed. -/
  | listAll
  /-- The next session that waits to be listed is taken from the queue. -/
  | takeForced
  /-- The session that was taken is listed. -/
  | listForced
deriving DecidableEq

/-- The relay after an event. -/
def step (env : Environment) (now : Moment) (r : Relay) : Event → Relay
  | .datagram sender data => r.receive env now sender data
  | .greet => r.greet env
  | .sweep => (r.sweep env now.instant).1
  | .forgetPayments => r.forgetPayments now
  | .listAll => r.listAll env now.instant
  | .takeForced => r.takeForced env
  | .listForced => r.listForced env now.instant

/-- The relay after a run of events. -/
def run (env : Environment) (r : Relay) (events : List (Moment × Event)) : Relay :=
  events.foldl (fun r e => r.step env e.1 e.2) r

@[simp] theorem run_nil (env : Environment) (r : Relay) : r.run env [] = r := rfl

@[simp] theorem run_cons (env : Environment) (r : Relay) (e : Moment × Event)
    (es : List (Moment × Event)) : r.run env (e :: es) = (r.step env e.1 e.2).run env es := rfl

theorem run_append (env : Environment) (r : Relay) (es fs : List (Moment × Event)) :
    r.run env (es ++ fs) = (r.run env es).run env fs :=
  List.foldl_append

end Relay

end MeteredRelay
