import MeteredRelay.Roster.Admission
import MeteredRelay.Roster.Rotation
import Mathlib.Tactic.Common

/-!
# Rosters that differ in their gauges

The gauges of a roster, and the queue of sessions that wait to be listed, are read by nobody who
binds, unbinds or pays.  So what happens to two rosters that are alike in all else (`Alike`) ends in
the same way and leaves them alike.
-/

namespace MeteredRelay

/-- Bytes that are still to be worked out are compared by what they come to. -/
instance : DecidableEq (Thunk Bytes) := fun a b =>
  decidable_of_iff (a.get = b.get) ⟨Thunk.ext, congrArg Thunk.get⟩

deriving instance DecidableEq for Store, Table, Session, Ledger

namespace Roster

/-- The same sessions, bindings and payments; the gauges may differ, and the sessions that wait to
be listed. -/
structure Alike (x y : Roster) : Prop where
  sessions : x.sessions = y.sessions
  table : x.table = y.table
  joined : x.joined = y.joined
  purses : x.purses = y.purses
  ledger : x.ledger = y.ledger

instance (x y : Roster) : Decidable (Alike x y) :=
  decidable_of_iff (x.sessions = y.sessions ∧ x.table = y.table ∧ x.joined = y.joined ∧
      x.purses = y.purses ∧ x.ledger = y.ledger)
    ⟨fun ⟨hsessions, htable, hjoined, hpurses, hledger⟩ =>
        ⟨hsessions, htable, hjoined, hpurses, hledger⟩,
      fun h => ⟨h.sessions, h.table, h.joined, h.purses, h.ledger⟩⟩

variable {x y : Roster} {n : SessionNo} {b old : Binding} {id : SessionId} {p peer source : PeerId}
  {link : LinkNo} {g : Grant} {now : Instant} {env : Environment}

namespace Alike

lemma symm (h : Alike x y) : Alike y x :=
  ⟨h.sessions.symm, h.table.symm, h.joined.symm, h.purses.symm, h.ledger.symm⟩

lemma trans {z : Roster} (h : Alike x y) (h' : Alike y z) : Alike x z :=
  ⟨h.sessions.trans h'.sessions, h.table.trans h'.table, h.joined.trans h'.joined,
    h.purses.trans h'.purses, h.ledger.trans h'.ledger⟩

/-- Alike rosters show the same session under every number. -/
lemma session (h : Alike x y) (n : SessionNo) : x.session n = y.session n := by
  rw [Roster.session, h.sessions, Roster.session]

/-! ## Parts of an operation -/

lemma changeSession (h : Alike x y) (n : SessionNo) (f : Session → Session) :
    Alike (x.changeSession n f) (y.changeSession n f) :=
  { h with sessions := congrArg (·.modify n f) h.sessions }

lemma join (h : Alike x y) (b : Binding) : Alike (x.join b) (y.join b) :=
  { h with joined := congrArg (·.insert ⟨b.link, b.peer⟩ b) h.joined }

/-- The connection knows the binding in both, or in neither, and then nothing happens. -/
lemma part (h : Alike x y) (b : Binding) : Alike (x.part b) (y.part b) := by
  simp only [Roster.part, h.joined]
  split
  · exact { h with joined := rfl }
  · exact h

/-- Whether an account is overdrawn is read off the ledger, so it is put into both purses or into
neither. -/
lemma attach (h : Alike x y) (purse : PurseNo) (account : AccountNo) :
    Alike (x.attach purse account) (y.attach purse account) :=
  { h with purses := by rw [Roster.attach, h.purses, h.ledger, Roster.attach] }

/-- A session that is made gets the same number in both. -/
lemma create (h : Alike x y) (id : SessionId) :
    Alike (x.create id).1 (y.create id).1 ∧ (x.create id).2 = (y.create id).2 :=
  ⟨{ h with
      sessions := congrArg (·.add (.start id)) h.sessions
      table := by simp only [Roster.create, h.table, h.sessions] },
    congrArg Store.size h.sessions⟩

/-- The entry of an id goes in both, if it leads to the session, or stays in both. -/
lemma forget (h : Alike x y) (id : SessionId) (n : SessionNo) :
    Alike (x.forget id n) (y.forget id n) := by
  simp only [Roster.forget, h.table]
  split
  · exact { h with table := rfl }
  · exact h

/-- To queue a session changes nothing that is compared. -/
lemma of_forceListing (x : Roster) (n : SessionNo) : Alike (x.forceListing n) x := by
  unfold Roster.forceListing
  split <;> exact ⟨rfl, rfl, rfl, rfl, rfl⟩

lemma forceListing (h : Alike x y) (n : SessionNo) :
    Alike (x.forceListing n) (y.forceListing n) :=
  ((of_forceListing x n).trans h).trans (of_forceListing y n).symm

/-- A session that became empty loses its entry in both; any other is queued. -/
lemma settle (h : Alike x y) (n : SessionNo) : Alike (x.settle n) (y.settle n) := by
  simp only [Roster.settle, h.session]
  split
  · exact h.forget _ _
  · exact h.forceListing _

lemma remove (h : Alike x y) (n : SessionNo) (p : PeerId) : Alike (x.remove n p) (y.remove n p) :=
  (h.changeSession n _).settle n

/-! ## Binds -/

/-- Both searches pass over the same closed sessions and come to one of the same number. -/
lemma openWithin (h : Alike x y) (id : SessionId) (rounds : Nat) :
    Alike (x.openWithin id rounds).1 (y.openWithin id rounds).1 ∧
      (x.openWithin id rounds).2 = (y.openWithin id rounds).2 := by
  -- a round that finds a closed session forgets it, so the rosters are others in the next one
  induction rounds generalizing x y with
  | zero => exact h.create id
  | succ rounds ih =>
      simp only [Roster.openWithin, h.table]
      cases y.table.get? id with
      | none => exact h.create id
      | some n =>
          dsimp only
          rw [h.session]
          split
          · exact ih (h.forget id n)
          · exact ⟨h, rfl⟩

lemma bindNew (h : Alike x y) (b : Binding) : Alike (x.bindNew b) (y.bindNew b) := by
  have hbound := (h.changeSession b.session (·.welcome b)).join b
  simp only [Roster.bindNew, elsewhere, h.joined]
  split
  · exact hbound.remove _ _
  · exact { hbound with }

/-- What the new connection held elsewhere is looked up after the old binding was parted with, and
is the same in both. -/
lemma takeOver (h : Alike x y) (old b : Binding) : Alike (x.takeOver old b) (y.takeOver old b) := by
  have hparted := (h.changeSession b.session (·.replace b)).part old
  have hbound := hparted.join b
  simp only [Roster.takeOver, elsewhere, hparted.joined]
  split
  · refine Alike.remove ?_ _ _
    exact { hbound with }
  · exact hbound

/-- A bind ends in the same way. -/
lemma bind (h : Alike x y) (now : Instant) (link : LinkNo) (peer : PeerId) (g : Grant) :
    Alike (x.bind now link peer g).1 (y.bind now link peer g).1 ∧
      (x.bind now link peer g).2 = (y.bind now link peer g).2 := by
  obtain ⟨x', n, hx⟩ : ∃ x' n, x.openSession g.session = (x', n) := ⟨_, _, rfl⟩
  obtain ⟨y', m, hy⟩ : ∃ y' m, y.openSession g.session = (y', m) := ⟨_, _, rfl⟩
  obtain ⟨hopened, rfl⟩ : Alike x' y' ∧ n = m := by
    have := h.openWithin g.session 2
    rwa [← openSession, ← openSession, hx, hy] at this
  have hlift := hopened.changeSession n (·.liftBan peer now)
  simp only [Roster.bind, hx, hy, hopened.session, hlift.session, hlift.purses]
  split
  · exact ⟨hopened, rfl⟩
  split
  · refine ⟨Alike.attach (Alike.bindNew ?_ _) _ _, rfl⟩
    exact { hlift with purses := rfl }
  · split
    · exact ⟨hlift, rfl⟩
    split
    · exact ⟨(hlift.changeSession n _).attach _ _, rfl⟩
    · refine ⟨Alike.attach (Alike.takeOver ?_ _ _) _ _, rfl⟩
      exact { hlift with purses := rfl }

/-! ## Leaving -/

/-- Who is bound is told by the connections, so a leave succeeds in both or in neither. -/
lemma leave (h : Alike x y) (link : LinkNo) (peer : PeerId) :
    Alike (x.leave link peer).1 (y.leave link peer).1 ∧
      (x.leave link peer).2 = (y.leave link peer).2 := by
  simp only [Roster.leave, h.joined]
  split
  · exact ⟨h, rfl⟩
  · refine ⟨Alike.remove ?_ _ _, rfl⟩
    exact { h with joined := rfl }

/-- A kick fails for the same reason in both, or bans and removes the same peer. -/
lemma kick (h : Alike x y) (now : Instant) (link : LinkNo) (source target : PeerId)
    (banSeconds : UInt32) :
    Alike (x.kick now link source target banSeconds).1
        (y.kick now link source target banSeconds).1 ∧
      (x.kick now link source target banSeconds).2 =
        (y.kick now link source target banSeconds).2 := by
  simp only [Roster.kick, binding?, h.joined, h.session]
  cases y.joined.get? ⟨link, source⟩ with
  | none => exact ⟨h, rfl⟩
  | some b =>
      dsimp only
      split
      · exact ⟨h, rfl⟩
      cases (y.session b.session).find? target with
      | none => exact ⟨h, rfl⟩
      | some t =>
          dsimp only
          split
          · rcases h.leave t.link target with ⟨hleft, hsame⟩
            exact ⟨hleft, by rw [hsame]⟩
          · rcases (h.changeSession b.session _).leave t.link target with ⟨hleft, hsame⟩
            exact ⟨hleft, by rw [hsame]⟩

/-! ## Rotations and payments -/

lemma rename (h : Alike x y) (n : SessionNo) (new : SessionId) :
    Alike (x.rename n new) (y.rename n new) :=
  { h.changeSession n fun s => { s with id := new } with
    table := by simp only [Roster.rename, h.session, h.table] }

/-- A rotation fails for the same reason in both, or gives the same session its new id. -/
lemma rotate (h : Alike x y) (env : Environment) (now : Moment) (link : LinkNo) (source : PeerId)
    (message : Bytes) :
    Alike (x.rotate env now link source message).1 (y.rotate env now link source message).1 ∧
      (x.rotate env now link source message).2 = (y.rotate env now link source message).2 := by
  simp only [Roster.rotate, binding?, h.joined]
  split
  · exact ⟨h, rfl⟩
  split
  · exact ⟨h, rfl⟩
  split
  · exact ⟨h, rfl⟩
  simp only [rotateBy, h.session, h.ledger]
  split
  · exact ⟨h, rfl⟩
  split
  · exact ⟨h, rfl⟩
  split
  · exact ⟨h, rfl⟩
  rename_i ledger _
  have hspent : Alike { x with ledger } { y with ledger } := { h with ledger := rfl }
  simp only [hspent.session]
  split
  · exact ⟨hspent, rfl⟩
  split
  · exact ⟨hspent, rfl⟩
  · exact ⟨hspent.rename _ _, rfl⟩

/-- The ledgers are the same, so a grant names the same account in both. -/
lemma grant (h : Alike x y) (env : Environment) (now : Moment) (tag : UInt64) (peer : PeerId)
    (message : Bytes) :
    Alike (x.grant env now tag peer message).1 (y.grant env now tag peer message).1 ∧
      (x.grant env now tag peer message).2 = (y.grant env now tag peer message).2 := by
  simp only [Roster.grant, h.ledger]
  split
  · exact ⟨{ h with ledger := rfl }, rfl⟩
  · split
    · exact ⟨h, rfl⟩
    · exact ⟨{ h with ledger := rfl }, rfl⟩

/-- A charge is covered in both or in neither. -/
lemma charge (h : Alike x y) (purse : PurseNo) (amount : Int64) :
    Alike (x.charge purse amount).1 (y.charge purse amount).1 ∧
      (x.charge purse amount).2 = (y.charge purse amount).2 := by
  simp only [Roster.charge, h.purses, h.ledger]
  exact ⟨{ h with purses := rfl, ledger := rfl }, trivial⟩

end Alike

end Roster

end MeteredRelay
