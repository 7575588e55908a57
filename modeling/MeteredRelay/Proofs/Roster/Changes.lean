import Mathlib.Logic.Relation
import Mathlib.Tactic.Common
import MeteredRelay.Proofs.Roster.Views

/-!
# How a session changes

Whatever is done to a roster, a session changes only in eight ways (`Session.Changes`).  Operations
put these together: a peer that moves from one session to another changes two, and a ban that has
ended is lifted before its peer is welcomed.  **`evolves_act`** says that every act leads each
session through a chain of such changes, so what one change keeps, every session of every reachable
roster has (**`session_induction`**), and the operations need not be opened again for it.

A session that is made counts as changed too: a number that stands for nothing reads as an empty
session without a proper id, which then is given one.
-/

namespace MeteredRelay

/-- What may become of a session at once. -/
inductive Session.Changes (s : Session) : Session → Prop where
  | welcome (b : Binding) : Changes s (s.welcome b)
  | replace (b : Binding) : Changes s (s.replace b)
  | noteMember (p : PeerId) : Changes s (s.noteMember p)
  | remove (p : PeerId) : Changes s (s.remove p)
  | ban (p : PeerId) (last : Instant) : Changes s (s.ban p last)
  | liftBan (p : PeerId) (now : Instant) : Changes s (s.liftBan p now)
  | markListed (now : Instant) (spacing : Span) : Changes s (s.markListed now spacing)
  | rename (id : SessionId) : Changes s { s with id }

namespace Roster

open Relation

/-- Every session of the one roster has become that of the other by changes. -/
def Evolves (r r' : Roster) : Prop :=
  ∀ n, ReflTransGen Session.Changes (r.session n) (r'.session n)

variable {r r' r'' : Roster} {n : SessionNo} {b old : Binding} {p peer : PeerId} {id : SessionId}
  {link : LinkNo} {g : Grant} {now : Instant} {f : Session → Session}

namespace Evolves

lemma refl (r : Roster) : Evolves r r := fun _ => .refl

lemma trans (h : Evolves r r') (h' : Evolves r' r'') : Evolves r r'' :=
  fun n => (h n).trans (h' n)

/-- Where all sessions are the same, none has changed. -/
lemma of_sessions (h : r'.sessions = r.sessions) : Evolves r r' := by
  intro n
  rw [session_congr h]

/-- Only the sessions matter. -/
lemma congr (h : Evolves r r') (hs : r''.sessions = r'.sessions) : Evolves r r'' :=
  h.trans (of_sessions hs)

/-- One of the eight changes, done to one session, leaves the others as they are. -/
lemma changeSession (hf : ∀ s, Session.Changes s (f s)) : Evolves r (r.changeSession n f) := by
  intro m
  by_cases hn : n < r.sessions.size
  · rw [session_changeSession hn]
    split
    · rename_i hm
      rw [hm]
      exact .single (hf _)
    · exact .refl
  · by_cases hm : m = n
    · rw [hm, session_of_le (Nat.not_lt.mp hn),
        session_of_le (by rw [size_changeSession]; exact Nat.not_lt.mp hn)]
    · rw [session_changeSession_of_ne hm]

/-- Under the number of the new session there was none before, so it is one that got an id. -/
lemma create (id : SessionId) : Evolves r (r.create id).1 := by
  intro m
  rw [session_create]
  split
  · rename_i hm
    rw [session_of_le (Nat.le_of_eq hm.symm)]
    exact .single (.rename id)
  · exact .refl

lemma remove : Evolves r (r.remove n p) :=
  (changeSession fun _ => .remove p).congr (sessions_settle ..)

/-- The peer is welcomed in its session, and removed from the one where its connection held it. -/
lemma bindNew : Evolves r (r.bindNew b) := by
  have hbound : Evolves r ((r.changeSession b.session (·.welcome b)).join b) :=
    (changeSession fun _ => .welcome b).congr rfl
  unfold Roster.bindNew
  dsimp only
  split
  · exact hbound.trans remove
  · exact hbound

/-- The binding takes the place of the old one, and the peer is removed from the session where its
new connection held it. -/
lemma takeOver : Evolves r (r.takeOver old b) := by
  have hbound : Evolves r (((r.changeSession b.session (·.replace b)).part old).join b) :=
    (changeSession fun _ => .replace b).congr (sessions_part ..)
  unfold Roster.takeOver
  dsimp only
  split
  · refine Evolves.trans ?_ remove
    exact hbound.congr rfl
  · exact hbound

lemma leave : Evolves r (r.leave link peer).1 := by
  simp only [Roster.leave]
  split
  · exact refl r
  · refine Evolves.trans ?_ remove
    exact of_sessions rfl

lemma leaveAll : Evolves r (r.leaveAll link) :=
  leaveAll_induction (motive := Evolves r) (fun _ _ h => h.trans leave) (refl r)

/-- The ban comes first, and then the peer leaves. -/
lemma kick {source target : PeerId} {banSeconds : UInt32} :
    Evolves r (r.kick now link source target banSeconds).1 := by
  rcases kick_cases r now link source target banSeconds with
    hkick | ⟨held, hkick | ⟨n, last, hkick⟩⟩
  · rw [hkick]
    exact refl r
  · rw [hkick]
    exact leave
  · rw [hkick]
    exact (changeSession fun _ => .ban target last).trans leave

lemma liftBan : Evolves r (r.changeSession n (·.liftBan peer now)) :=
  changeSession fun _ => .liftBan peer now

end Evolves

/-- A ban that has ended is lifted before the size is compared, so this change stays even if the
bind is then refused. -/
lemma Binds.evolves {outcome : Except RelayFault SessionNo} (hr : r.Sound)
    (h : Binds r now link peer g r' outcome) : Evolves r r' := by
  cases h with
  | banned => exact .refl r
  | mismatched => exact .liftBan
  | refreshed =>
      refine Evolves.congr (?_ : Evolves r (Roster.changeSession _ _ _)) rfl
      exact Evolves.liftBan.trans (.changeSession fun _ => .noteMember peer)
  | takenOver =>
      refine Evolves.congr (?_ : Evolves r (Roster.takeOver _ _ _)) rfl
      refine Evolves.trans ?_ Evolves.takeOver
      exact Evolves.liftBan.congr rfl
  | welcomed hx hban hp =>
      rename_i x n
      have hopen : Evolves r x := by
        rcases openSession_cases hr hx with ⟨-, rfl⟩ | ⟨-, hcreate⟩
        · exact .refl _
        · rw [show x = (r.create g.session).1 by rw [hcreate]]
          exact .create g.session
      refine Evolves.congr (?_ : Evolves r (Roster.bindNew _ _)) rfl
      refine Evolves.trans ?_ Evolves.bindNew
      exact (hopen.trans Evolves.liftBan).congr rfl

lemma Rotates.evolves {env : Environment} {source : PeerId} {message : Bytes}
    {outcome : Except RelayFault Unit} (h : Rotates env r link source message r' outcome) :
    Evolves r r' := by
  cases h with
  | refused => exact .refl r
  | spent => exact .of_sessions rfl
  | moved ledger hb hc hold hl hnew =>
      exact (Evolves.changeSession fun _ => .rename _).congr rfl

/-- **Every act leads each session through changes.** -/
theorem evolves_act (hr : r.Sound) (env : Environment) (now : Moment) (a : Act) :
    Evolves r (r.act env now a) := by
  cases a with
  | bind link peer g => exact (binds_bind hr now.instant link peer g).evolves hr
  | leave link peer => exact .leave
  | leaveAll link => exact .leaveAll
  | kick link source target banSeconds => exact .kick
  | rotate link source message => exact (rotates_rotate hr env now link source message).evolves
  | markListed n spacing => exact .changeSession fun _ => .markListed now.instant spacing
  | forceListing n => exact .of_sessions (sessions_forceListing ..)
  | redeem | forgetPayments | charge | takeForced => exact .of_sessions rfl

/-- **What holds of a session when it starts and is kept by every change, holds of each session of
every reachable roster.** -/
theorem session_induction {P : Session → Prop} (start : P (.start .zero))
    (step : ∀ {s t}, P s → s.Changes t → P t) (env : Environment) (acts : List (Moment × Act))
    (n : SessionNo) : P ((empty.run env acts).session n) := by
  have hchain : ∀ {s t}, ReflTransGen Session.Changes s t → P s → P t := by
    intro s t h hs
    induction h with
    | refl => exact hs
    | tail _ hc ih => exact step ih hc
  have hrun : (empty.run env acts).Sound ∧ ∀ n, P ((empty.run env acts).session n) := by
    refine run_induction (P := fun r => r.Sound ∧ ∀ n, P (r.session n)) ?_
      ⟨sound_empty, fun _ => start⟩ acts
    rintro r now a ⟨hr, hP⟩
    exact ⟨sound_act now a hr, fun n => hchain (evolves_act hr env now a n) (hP n)⟩
  exact hrun.2 n

end Roster

end MeteredRelay
