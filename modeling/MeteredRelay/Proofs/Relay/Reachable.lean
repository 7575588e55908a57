import MeteredRelay.Proofs.Relay.Orderly

/-!
# The states that a relay reaches

Between two events a relay may be in the midst of a datagram: the message in it was opened and lies
on the desk.  **`Reachable`** counts these states too, for it is in them that messages are handled.
All of them are in order (**`Reachable.orderly`**), and their rosters are rosters that a run of acts
leads to (**`Reachable.exists_run`**), so that what holds of every run of a roster holds in them.
-/

namespace MeteredRelay

namespace Relay

variable {r : Relay} {env : Environment}

/-- The states that a relay reaches: those after a run of events, and those in which a message that
came in a datagram is to be handled. -/
inductive Reachable (env : Environment) : Relay → Prop where
  | start : Reachable env start
  | step {r : Relay} (now : Moment) (e : Event) (h : Reachable env r) :
      Reachable env (r.step env now e)
  /-- The datagram belongs to a connection, and its message was opened. -/
  | reading {r arrived opened : Relay} (now : Moment) (address : SocketAddress) (datagram : Bytes)
      {n : LinkNo} {size : Nat} (h : Reachable env r)
      (harrive : (r.take datagram).arrive env now address
        ((r.take datagram).desk.raw.take datagram.length) = (arrived, .message n))
      (hopen : arrived.openInput env n ((r.take datagram).desk.raw.take datagram.length) =
        (opened, some size)) :
      Reachable env (opened.changeLink n (·.noteRead now.instant))

namespace Reachable

/-- A run reaches what it says. -/
lemma run (h : Reachable env r) (events : List (Moment × Event)) :
    Reachable env (r.run env events) := by
  induction events generalizing r with
  | nil => exact h
  | cons e es ih => exact ih (h.step e.1 e.2)

/-- **Every relay that is reached is in order.** -/
theorem orderly (h : Reachable env r) : r.Orderly := by
  induction h with
  | start => exact orderly_start
  | step now e h ih => exact ih.step e
  | reading now address datagram h harrive hopen ih =>
      rcases (ih.keeps keeps_take).arrive harrive with ⟨ha, hlt⟩
      exact (ha.openInput (hlt _ rfl) hopen).1

/-- **The roster of a relay that is reached is one that a run of acts leads to.** -/
theorem exists_run (h : Reachable env r) : ∃ acts, r.roster = Roster.empty.run env acts := by
  induction h with
  | start => exact ⟨[], rfl⟩
  | step now e h ih =>
      rename_i r
      rcases ih with ⟨before, hbefore⟩
      rcases performs_step env now r e with ⟨acts, -, hacts⟩
      exact ⟨before ++ acts.map (now, ·), by rw [hacts, hbefore, Roster.run_append]⟩
  | reading now address datagram h harrive hopen ih =>
      rcases ih with ⟨before, hbefore⟩
      have hroster := (keeps_openInput hopen).roster.trans (roster_arrive harrive)
      exact ⟨before, hroster.trans hbefore⟩

end Reachable

end Relay

end MeteredRelay
