import MeteredRelay.Proofs.Roster.Connections

/-!
# What a session keeps when peers come and go

Those who come and go change the bindings of a session, its set of members and whether it is closed.
Its id and its bans do not depend on who is bound (`Lasting`), so they are read off without opening
the operations: a bind ends in a session with the id that the grant names (`Binds.session_id`), it
lifts a ban that has ended and no other (**`Binds.bans`**), and leaving lifts none.  A session keeps
its id until it is rotated (**`id_act`**).

`Kicks` lists the two ways in which a kick may end.  In a sound roster a kick that was allowed does
not fail any more (**`kicks_kick`**): the connection of the target knows the binding that the
session lists.
-/

namespace MeteredRelay

namespace Roster

variable {r r' : Roster} {n m : SessionNo} {b old : Binding} {p peer : PeerId} {id : SessionId}
  {link : LinkNo} {g : Grant} {now : Instant}

/-- A datum of a session that does not depend on who is bound. -/
structure Lasting {α : Type} (f : Session → α) : Prop where
  welcome : ∀ s b, f (s.welcome b) = f s
  replace : ∀ s b, f (s.replace b) = f s
  noteMember : ∀ s p, f (s.noteMember p) = f s
  remove : ∀ s p, f (s.remove p) = f s

lemma lasting_id : Lasting Session.id :=
  ⟨fun _ _ => rfl, fun _ _ => rfl, fun _ _ => rfl, fun _ _ => rfl⟩

lemma lasting_bans : Lasting Session.bans :=
  ⟨fun _ _ => rfl, fun _ _ => rfl, fun _ _ => rfl, fun _ _ => rfl⟩

lemma lasting_lastListing : Lasting Session.lastListing :=
  ⟨fun _ _ => rfl, fun _ _ => rfl, fun _ _ => rfl, fun _ _ => rfl⟩

namespace Lasting

variable {α : Type} {f : Session → α} (hf : Lasting f)
include hf

lemma session_remove : f ((r.remove n p).session m) = f (r.session m) := by
  rw [show (r.remove n p).session m = (r.changeSession n (·.remove p)).session m by
    simp [session, Roster.remove]]
  exact session_changeSession_congr f (fun s => hf.remove s p) n m

lemma session_bindNew : f ((r.bindNew b).session m) = f (r.session m) := by
  have hbound : f (((r.changeSession b.session (·.welcome b)).join b).session m) =
      f (r.session m) :=
    session_changeSession_congr f (fun s => hf.welcome s b) b.session m
  unfold bindNew
  dsimp only
  split
  · rw [hf.session_remove, hbound]
  · exact hbound

lemma session_takeOver : f ((r.takeOver old b).session m) = f (r.session m) := by
  have hbound : f ((((r.changeSession b.session (·.replace b)).part old).join b).session m) =
      f (r.session m) := by
    rw [session_join, session_part]
    exact session_changeSession_congr f (fun s => hf.replace s b) b.session m
  unfold takeOver
  dsimp only
  split
  · rw [hf.session_remove]
    exact hbound
  · exact hbound

lemma session_leave : f ((r.leave link peer).1.session m) = f (r.session m) := by
  simp only [leave]
  split
  · rfl
  · rw [hf.session_remove]
    rfl

lemma session_leaveAll : f ((r.leaveAll link).session m) = f (r.session m) :=
  leaveAll_induction (motive := fun x => f (x.session m) = f (r.session m))
    (fun _ _ h => hf.session_leave.trans h) rfl

end Lasting

/-! ## Binds -/

/-- The session that a bind finds or makes has the id that it was asked for. -/
lemma id_openSession (hr : r.Sound) {x : Roster} (hx : r.openSession id = (x, n)) :
    (x.session n).id = id :=
  ((sound_openSession hr hx).1.keyed id n (sound_openSession hr hx).2.1).2

/-- A session that was just made has no bans. -/
lemma bans_openSession (hr : r.Sound) {x : Roster} (hx : r.openSession id = (x, n))
    (m : SessionNo) : (x.session m).bans = (r.session m).bans :=
  session_openSession_congr Session.bans (fun _ => rfl) hr hx m

/-- A bind that succeeds finds or makes its session, where the peer is not kept out, and lifts a ban
that has ended.  Nothing else changes that does not depend on who is bound. -/
lemma Binds.opened (hr : r.Sound) (hr' : Binds r now link peer g r' (.ok n)) :
    ∃ x, r.openSession g.session = (x, n) ∧ (x.session n).isBanned peer now = false ∧
      ∀ {α : Type} (f : Session → α), Lasting f → ∀ m,
        f (r'.session m) = f ((x.changeSession n (·.liftBan peer now)).session m) := by
  cases hr' with
  | refreshed hn hban hb hs hl =>
      refine ⟨r, openSession_of_some hr hn, hban, ?_⟩
      intro α f hf m
      exact session_changeSession_congr f (fun s => hf.noteMember s peer) n m
  | takenOver hn hban hb hs hl =>
      refine ⟨r, openSession_of_some hr hn, hban, ?_⟩
      intro α f hf m
      exact hf.session_takeOver
  | welcomed hx hban hp =>
      refine ⟨_, hx, hban, ?_⟩
      intro α f hf m
      exact hf.session_bindNew

/-- A bind that succeeds ends in a session with the id that the grant names. -/
lemma Binds.session_id (hr : r.Sound) (hr' : Binds r now link peer g r' (.ok n)) :
    (r'.session n).id = g.session := by
  obtain ⟨x, hx, -, hlast⟩ := hr'.opened hr
  rw [hlast Session.id lasting_id, session_changeSession_congr Session.id id_liftBan]
  exact id_openSession hr hx

lemma isBanned_congr {s t : Session} (h : s.bans = t.bans) :
    s.isBanned p now = t.isBanned p now := by
  rw [Session.isBanned, h, Session.isBanned]

/-- What the bans are after one was lifted that had ended. -/
lemma bans_lifted (h : (r.session n).isBanned p now = false) (m : SessionNo) :
    ((r.changeSession n (·.liftBan p now)).session m).bans =
      if m = n then (r.session m).bans.erase p else (r.session m).bans := by
  by_cases hn : n < r.sessions.size
  · rw [session_changeSession hn]
    split
    · rename_i hm
      simp [Session.liftBan, h, hm]
    · rfl
  · have hnone : (r.session n).bans = Table.empty := by
      rw [session_of_le (Nat.not_lt.mp hn)]
      rfl
    split
    · rename_i hm
      rw [hm, session_of_le (by rw [size_changeSession]; exact Nat.not_lt.mp hn), hnone]
      rfl
    · rename_i hm
      rw [session_changeSession_of_ne hm]

/-- **A bind lifts the ban of its peer in one session, where this has ended, or is refused.** -/
theorem Binds.bans {outcome : Except RelayFault SessionNo} (hr : r.Sound)
    (hr' : Binds r now link peer g r' outcome) :
    (r' = r ∧ outcome = .error (.coded .banned)) ∨
      ∃ n, (r.session n).isBanned peer now = false ∧ (∀ k, outcome = .ok k → k = n) ∧
        ∀ m, (r'.session m).bans =
          if m = n then (r.session m).bans.erase peer else (r.session m).bans := by
  cases outcome with
  | error e =>
      cases hr' with
      | banned => exact .inl ⟨rfl, rfl⟩
      | mismatched hn hban => exact .inr ⟨_, hban, nofun, bans_lifted hban⟩
  | ok n =>
      obtain ⟨x, hx, hban, hlast⟩ := hr'.opened hr
      have hbans := bans_openSession hr hx
      refine .inr ⟨n, by rwa [← isBanned_congr (hbans n)], fun k hk => (Except.ok.inj hk).symm, ?_⟩
      intro m
      rw [hlast Session.bans lasting_bans, bans_lifted hban, hbans]

/-! ## Kicks -/

/-- A peer that nobody knows on a connection cannot leave. -/
lemma leave_of_none (h : r.joined.get? ⟨link, peer⟩ = none) :
    r.leave link peer = (r, .error .notInSession) := by
  simp only [leave, h]

lemma leave_of_some (h : r.joined.get? ⟨link, peer⟩ = some b) :
    (r.leave link peer).2 = .ok () := by
  simp only [leave, h]

/-- A leave that is refused changes nothing. -/
lemma leave_of_error {e : RelayFault} (h : (r.leave link peer).2 = .error e) :
    (r.leave link peer).1 = r := by
  cases hb : r.joined.get? ⟨link, peer⟩ with
  | none => rw [leave_of_none hb]
  | some b =>
      rw [leave_of_some hb] at h
      contradiction

/-- The roster with a peer kept out of a session for some seconds, if any. -/
def banFor (r : Roster) (n : SessionNo) (target : PeerId) (now : Instant) (banSeconds : UInt32) :
    Roster :=
  if banSeconds = 0 then r
  else r.changeSession n (·.ban target (now + Span.seconds banSeconds.toNat))

/-- The ways in which a kick may end. -/
inductive Kicks (r : Roster) (now : Instant) (link : LinkNo) (source target : PeerId)
    (banSeconds : UInt32) : Roster → Except RelayFault LinkNo → Prop where
  /-- Nothing happens. -/
  | refused (e : RelayFault) : Kicks r now link source target banSeconds r (.error e)
  /-- The target leaves the session of the admin. -/
  | kicked {b t : Binding} (hb : r.binding? link source = some b) (hadmin : b.isAdmin = true)
      (ht : (r.session b.session).find? target = some t) :
      Kicks r now link source target banSeconds
        ((r.banFor b.session target now banSeconds).leave t.link target).1 (.ok t.link)

/-- A kick that is refused changes nothing. -/
lemma Kicks.eq_of_error {source target : PeerId} {banSeconds : UInt32}
    {outcome : Except RelayFault LinkNo} {e : RelayFault}
    (hk : Kicks r now link source target banSeconds r' outcome) (h : outcome = .error e) :
    r' = r := by
  cases hk with
  | refused => rfl
  | kicked => contradiction

/-- A peer that a session lists can be made to leave, since its connection knows the binding. -/
lemma leave_of_find? {t : Binding} (hr : r.Sound) (ht : (r.session n).find? p = some t)
    (now : Instant) (banSeconds : UInt32) :
    ((r.banFor n p now banSeconds).leave t.link p).2 = .ok () := by
  refine leave_of_some (b := t) ?_
  rw [← hr.binding?_of_find? ht]
  unfold banFor
  split <;> rfl

/-- **Every kick in a sound roster ends in one of the two ways.** -/
theorem kicks_kick (hr : r.Sound) (now : Instant) (link : LinkNo) (source target : PeerId)
    (banSeconds : UInt32) :
    Kicks r now link source target banSeconds (r.kick now link source target banSeconds).1
      (r.kick now link source target banSeconds).2 := by
  simp only [kick]
  cases hb : r.binding? link source with
  | none => exact .refused _
  | some b =>
      dsimp only
      split
      · exact .refused _
      rename_i hadmin
      cases ht : (r.session b.session).find? target with
      | none => exact .refused _
      | some t =>
          dsimp only
          change Kicks r now link source target banSeconds _
            (((r.banFor b.session target now banSeconds).leave t.link target).2.map fun _ => t.link)
          rw [leave_of_find? hr ht]
          exact .kicked hb (by simpa using hadmin) ht

/-! ## Ids -/

/-- A bind gives no session that there is another id. -/
lemma Binds.id_of_lt {outcome : Except RelayFault SessionNo} (hr : r.Sound)
    (hr' : Binds r now link peer g r' outcome) (hm : m < r.sessions.size) :
    (r'.session m).id = (r.session m).id := by
  cases outcome with
  | error e =>
      cases hr' with
      | banned => rfl
      | mismatched => exact session_changeSession_congr Session.id id_liftBan _ m
  | ok n =>
      obtain ⟨x, hx, -, hlast⟩ := hr'.opened hr
      rw [hlast Session.id lasting_id, session_changeSession_congr Session.id id_liftBan]
      rcases openSession_cases hr hx with ⟨-, rfl⟩ | ⟨-, hcreate⟩
      · rfl
      · rw [show x = (r.create g.session).1 by rw [hcreate], session_create,
          if_neg (Nat.ne_of_lt hm)]

/-- **Only a rotation gives a session another id.** -/
theorem id_act (hr : r.Sound) (env : Environment) (now : Moment) (a : Act)
    (hm : m < r.sessions.size) :
    ((r.act env now a).session m).id = (r.session m).id ∨
      ∃ link source message, a = .rotate link source message := by
  cases a with
  | bind link peer g => exact .inl ((binds_bind hr now.instant link peer g).id_of_lt hr hm)
  | leave link peer => exact .inl lasting_id.session_leave
  | leaveAll link => exact .inl lasting_id.session_leaveAll
  | kick link source target banSeconds =>
      refine .inl ?_
      rcases kick_cases r now.instant link source target banSeconds with
        hkick | ⟨held, hkick | ⟨n, last, hkick⟩⟩
      · rw [act, hkick]
      · rw [act, hkick, lasting_id.session_leave]
      · rw [act, hkick, lasting_id.session_leave]
        exact session_changeSession_congr (f := (·.ban target last)) Session.id (fun _ => rfl) n m
  | rotate link source message => exact .inr ⟨link, source, message, rfl⟩
  | markListed n spacing =>
      refine .inl (session_changeSession_congr Session.id (fun s => ?_) n m)
      simp only [Session.markListed]
      split <;> rfl
  | forceListing n => exact .inl (by rw [act, session, sessions_forceListing]; rfl)
  | _ => exact .inl rfl

end Roster

end MeteredRelay
