import MeteredRelay.Roster.Admission
import MeteredRelay.Roster.Rotation

/-!
# Runs of a roster

Everything that changes a roster is one of eleven acts at a moment, refused ones included.  A run is
a list of them, and a roster is reachable if some run leads to it from the empty one.  A law of
every reachable roster is proved in two parts: it holds of the empty roster, and each act keeps it
(**`run_induction`**).
-/

namespace MeteredRelay

namespace Roster

/-- What may happen to a roster. -/
inductive Act where
  /-- A peer on a connection is bound to the session that a grant names. -/
  | bind (link : LinkNo) (peer : PeerId) (grant : Grant)
  /-- A peer on a connection leaves its session. -/
  | leave (link : LinkNo) (peer : PeerId)
  /-- Every peer on a connection leaves its session. -/
  | leaveAll (link : LinkNo)
  /-- A peer on a connection kicks another from its session. -/
  | kick (link : LinkNo) (source target : PeerId) (banSeconds : UInt32)
  /-- A peer on a connection shows a rotation cookie for its session. -/
  | rotate (link : LinkNo) (source : PeerId) (message : Bytes)
  /-- A payment is redeemed. -/
  | redeem (tag allowance : UInt64) (endTime : Int64)
  /-- Payments that have ended are forgotten. -/
  | forgetPayments
  /-- A purse is charged. -/
  | charge (purse : PurseNo) (amount : Int64)
  /-- A session is listed, if a listing is due. -/
  | markListed (session : SessionNo) (spacing : Span)
  /-- A listing of a session is asked for. -/
  | forceListing (session : SessionNo)
  /-- The session that waits longest to be listed waits no more. -/
  | takeForced

/-- The roster after an act. -/
def act (env : Environment) (now : Moment) (r : Roster) : Act → Roster
  | .bind link peer grant => (r.bind now.instant link peer grant).1
  | .leave link peer => (r.leave link peer).1
  | .leaveAll link => r.leaveAll link
  | .kick link source target banSeconds => (r.kick now.instant link source target banSeconds).1
  | .rotate link source message => (r.rotate env now link source message).1
  | .redeem tag allowance endTime => { r with ledger := (r.ledger.redeem tag allowance endTime).1 }
  | .forgetPayments => { r with ledger := r.ledger.sweep now.unix }
  | .charge purse amount => (r.charge purse amount).1
  | .markListed n spacing => r.changeSession n (·.markListed now.instant spacing)
  | .forceListing n => r.forceListing n
  | .takeForced => { r with forced := r.forced.tail }

/-- A grant redeems a payment, or it leaves the roster as it is. -/
theorem grant_eq_act (env : Environment) (now : Moment) (tag : UInt64) (r : Roster)
    (peer : PeerId) (message : Bytes) :
    (r.grant env now tag peer message).1 = r ∨ ∃ tag' allowance endTime,
      (r.grant env now tag peer message).1 = r.act env now (.redeem tag' allowance endTime) := by
  simp only [grant]
  split
  · exact .inr ⟨_, _, _, rfl⟩
  · split
    · exact .inl rfl
    · exact .inr ⟨_, _, _, rfl⟩

/-- The roster after a run of acts. -/
def run (env : Environment) (r : Roster) (acts : List (Moment × Act)) : Roster :=
  acts.foldl (fun r a => r.act env a.1 a.2) r

@[simp] theorem run_nil (env : Environment) (r : Roster) : r.run env [] = r := rfl

@[simp] theorem run_cons (env : Environment) (r : Roster) (a : Moment × Act)
    (as : List (Moment × Act)) : r.run env (a :: as) = (r.act env a.1 a.2).run env as := rfl

theorem run_append (env : Environment) (r : Roster) (as bs : List (Moment × Act)) :
    r.run env (as ++ bs) = (r.run env as).run env bs :=
  List.foldl_append

/-- What each act keeps, every run keeps. -/
theorem run_induction {P : Roster → Prop} {env : Environment}
    (step : ∀ {r} now a, P r → P (r.act env now a)) {r : Roster} (h : P r)
    (acts : List (Moment × Act)) : P (r.run env acts) := by
  induction acts generalizing r with
  | nil => exact h
  | cons a as ih => exact ih (step a.1 a.2 h)

end Roster

end MeteredRelay
