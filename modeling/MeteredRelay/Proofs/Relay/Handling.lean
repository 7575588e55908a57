import Mathlib.Tactic.Common
import MeteredRelay.Relay.Event

/-!
# What becomes of a message

A message that was opened may have no header or a number that is refused.  If neither is so it is
processed: obeyed, if it is a command, and passed on, if somebody of its name is bound on the
connection that it came through.  `Handles` and `Processes` list these ways, each with the exact
state after it, and **`handles_handle`** says that there is no other, so that whatever is said of
every message goes by cases and does not open the function that handles it.
-/

namespace MeteredRelay

namespace Relay

variable {env : Environment} {now : Moment} {r r' : Relay} {sender : LinkNo} {size : Nat}

/-- What becomes of a message whose number was accepted: it is obeyed or passed on. -/
inductive Processes (env : Environment) (now : Moment) (r : Relay) (sender : LinkNo) (size : Nat) :
    Relay → Prop where
  | obeyed {r' : Relay} (hcommand : r.desk.packet.source ≠ r.desk.packet.target)
      (hobey : r.obey env now sender = (r', .ok ())) : Processes env now r sender size r'
  /-- The client misbehaved. -/
  | disobeyed {r' : Relay} {e : RelayFault} (hcommand : r.desk.packet.source ≠ r.desk.packet.target)
      (hobey : r.obey env now sender = (r', .error e)) :
      Processes env now r sender size (r'.penalize sender)
  /-- Nobody of that name is bound on the connection. -/
  | unbound (hdata : r.desk.packet.source = r.desk.packet.target)
      (hnone : r.roster.binding? sender r.desk.packet.source = none) :
      Processes env now r sender size (r.penalize sender)
  | forwarded {b : Binding} (hdata : r.desk.packet.source = r.desk.packet.target)
      (hb : r.roster.binding? sender r.desk.packet.source = some b) :
      Processes env now r sender size (r.forward env sender b size)

/-- The relay that has accepted a number of a connection. -/
def note (r : Relay) (n : LinkNo) (window : PackedWindow) : Relay :=
  r.changeLink n fun l => { l with window }

/-- What becomes of a message. -/
inductive Handles (env : Environment) (now : Moment) (r : Relay) (sender : LinkNo) (size : Nat) :
    Relay → Prop where
  | headless (hheader : r.desk.packet.hasHeader = false) :
      Handles env now r sender size (r.penalize sender)
  | skipped (hheader : r.desk.packet.hasHeader = true)
      (hwindow : (r.link sender).window.accept? r.desk.packet.sequence = none) :
      Handles env now r sender size { r with skipped := r.skipped.increment }
  | accepted {r' : Relay} {window : PackedWindow} (hheader : r.desk.packet.hasHeader = true)
      (hwindow : (r.link sender).window.accept? r.desk.packet.sequence = some window)
      (hprocesses : Processes env now (r.note sender window) sender size r') :
      Handles env now r sender size r'

/-- **Every message ends in one of these ways.** -/
theorem handles_handle (env : Environment) (now : Moment) (r : Relay) (sender : LinkNo)
    (size : Nat) : Handles env now r sender size (r.handle env now sender size) := by
  unfold handle
  dsimp only
  split
  · rename_i hheader
    exact .headless (by simpa using hheader)
  rename_i hheader
  have hheader : r.desk.packet.hasHeader = true := by simpa using hheader
  split
  · rename_i hwindow
    exact .skipped hheader hwindow
  rename_i window hwindow
  refine .accepted hheader hwindow ?_
  split
  · rename_i hcommand
    split <;> rename_i hobey
    · exact .obeyed hcommand hobey
    · exact .disobeyed hcommand hobey
  · rename_i hdata
    have hdata : r.desk.packet.source = r.desk.packet.target := not_not.mp hdata
    split <;> rename_i hb
    · exact .unbound hdata hb
    · exact .forwarded hdata hb

/-! ## Passing on -/

/-- A message that was paid for is addressed and sent. -/
lemma forward_eq_of_paid {b : Binding} {charged : Roster}
    (hcharge : r.roster.charge b.purse (price size) = (charged, true)) :
    r.forward env sender b size =
      { ((r.setRoster charged).address sender b.session b.size).fanOut env sender with
        delays := (((r.setRoster charged).address sender b.session b.size).fanOut env
          sender).delays.observe 0 } := by
  simp only [forward, charge, hcharge, if_true]

/-- A message that was not paid for is refused. -/
lemma forward_eq_of_not_paid {b : Binding} {charged : Roster}
    (hcharge : r.roster.charge b.purse (price size) = (charged, false)) :
    r.forward env sender b size = (r.setRoster charged).refuseUnpaid sender size := by
  simp only [forward, charge, hcharge, if_false, Bool.false_eq_true]

/-- A message is addressed to the first bindings of a session, and it is a misdeed if there are
more. -/
lemma address_eq {n : SessionNo} : r.address sender n size =
    { (if size < (r.roster.session n).bindings.length then r.penalize sender else r) with
      desk := { r.desk with
        destinations := ((r.roster.session n).bindings.take size).map
          fun b => ⟨b.peer, b.link⟩ } } := by
  simp only [address, Session.destinations, List.length_map, ← List.map_take]
  split <;> rfl

end Relay

end MeteredRelay
