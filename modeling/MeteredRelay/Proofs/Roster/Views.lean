import MeteredRelay.Proofs.Roster.Bind

/-!
# The views of a binding agree

Every act keeps a roster sound (`sound_act`), so every reachable roster is (`sound_run`).  In
particular the three places that tell who is in a session say the same (**`views_agree`**): the
bindings that connections know are the ones that sessions list, no session lists a peer twice, and
the set of members that listings are made of is the set of the listed peers.

`Enters` lists the five ways in which a bind may end once it has found its session, and `Binds` what
they come to where the roster is sound; what is said of binds is proved by its cases.
-/

namespace MeteredRelay

namespace Roster

variable {r r' : Roster} {n : SessionNo} {b : Binding} {p peer : PeerId} {id : SessionId}
  {link : LinkNo} {g : Grant} {now : Instant}

/-! ## How a bind ends -/

/-- The ways in which a bind may end in a roster, once it has found its session there. -/
inductive Enters (x : Roster) (n : SessionNo) (now : Instant) (link : LinkNo) (peer : PeerId)
    (g : Grant) : Roster → Except RelayFault SessionNo → Prop where
  /-- The peer is kept out. -/
  | banned (hban : (x.session n).isBanned peer now = true) :
      Enters x n now link peer g x (.error (.coded .banned))
  /-- The peer is bound with another size. -/
  | mismatched {b : Binding} (hban : (x.session n).isBanned peer now = false)
      (hb : (x.session n).find? peer = some b) (hs : b.size ≠ g.size.toNat) :
      Enters x n now link peer g (x.changeSession n (·.liftBan peer now))
        (.error (.sizeMismatch b.size g.size.toNat))
  /-- The peer is bound through the same connection. -/
  | refreshed {b : Binding} (hban : (x.session n).isBanned peer now = false)
      (hb : (x.session n).find? peer = some b) (hs : b.size = g.size.toNat) (hl : b.link = link) :
      Enters x n now link peer g
        (((x.changeSession n (·.liftBan peer now)).changeSession n (·.noteMember peer)).attach
          b.purse g.account) (.ok n)
  /-- The peer is bound through another connection. -/
  | takenOver {b : Binding} (hban : (x.session n).isBanned peer now = false)
      (hb : (x.session n).find? peer = some b) (hs : b.size = g.size.toNat) (hl : b.link ≠ link) :
      Enters x n now link peer g
        (({ x.changeSession n (·.liftBan peer now) with purses := x.purses.copy b.purse }.takeOver b
          (b.movedTo link g.isAdmin x.purses.size)).attach x.purses.size g.account) (.ok n)
  /-- The peer is not bound in the session. -/
  | welcomed (hban : (x.session n).isBanned peer now = false) (hp : peer ∉ (x.session n).peers) :
      Enters x n now link peer g
        (({ x.changeSession n (·.liftBan peer now) with purses := x.purses.start }.bindNew
          ⟨peer, n, link, g.size.toNat, g.isAdmin, x.purses.size⟩).attach x.purses.size g.account)
        (.ok n)

/-- The ways in which a bind of a sound roster may end. -/
inductive Binds (r : Roster) (now : Instant) (link : LinkNo) (peer : PeerId) (g : Grant) :
    Roster → Except RelayFault SessionNo → Prop where
  /-- The peer is kept out. -/
  | banned {n : SessionNo} (hn : r.table.get? g.session = some n)
      (hban : (r.session n).isBanned peer now = true) :
      Binds r now link peer g r (.error (.coded .banned))
  /-- The peer is bound with another size. -/
  | mismatched {n : SessionNo} {b : Binding} (hn : r.table.get? g.session = some n)
      (hban : (r.session n).isBanned peer now = false)
      (hb : (r.session n).find? peer = some b) (hs : b.size ≠ g.size.toNat) :
      Binds r now link peer g (r.changeSession n (·.liftBan peer now))
        (.error (.sizeMismatch b.size g.size.toNat))
  /-- The peer is bound through the same connection. -/
  | refreshed {n : SessionNo} {b : Binding} (hn : r.table.get? g.session = some n)
      (hban : (r.session n).isBanned peer now = false)
      (hb : (r.session n).find? peer = some b) (hs : b.size = g.size.toNat) (hl : b.link = link) :
      Binds r now link peer g
        (((r.changeSession n (·.liftBan peer now)).changeSession n (·.noteMember peer)).attach
          b.purse g.account) (.ok n)
  /-- The peer is bound through another connection. -/
  | takenOver {n : SessionNo} {b : Binding} (hn : r.table.get? g.session = some n)
      (hban : (r.session n).isBanned peer now = false)
      (hb : (r.session n).find? peer = some b) (hs : b.size = g.size.toNat) (hl : b.link ≠ link) :
      Binds r now link peer g
        (({ r.changeSession n (·.liftBan peer now) with purses := r.purses.copy b.purse }.takeOver b
          (b.movedTo link g.isAdmin r.purses.size)).attach r.purses.size g.account) (.ok n)
  /-- The peer is not bound in the session. -/
  | welcomed {x : Roster} {n : SessionNo} (hx : r.openSession g.session = (x, n))
      (hban : (x.session n).isBanned peer now = false) (hp : peer ∉ (x.session n).peers) :
      Binds r now link peer g
        (({ x.changeSession n (·.liftBan peer now) with purses := x.purses.start }.bindNew
          ⟨peer, n, link, g.size.toNat, g.isAdmin, x.purses.size⟩).attach x.purses.size g.account)
        (.ok n)

/-- A session in the table is open, so a search for it ends in the first round. -/
lemma openSession_of_some (h : r.Sound) (hn : r.table.get? id = some n) :
    r.openSession id = (r, n) := by
  simp [openSession, openWithin, hn, h.closed_eq_false hn]

lemma openSession_of_none (hn : r.table.get? id = none) : r.openSession id = r.create id := by
  simp [openSession, openWithin, hn]

/-- The session of an id is the one that the table leads to, or a new one. -/
lemma openSession_cases (h : r.Sound) {x : Roster} (hx : r.openSession id = (x, n)) :
    (r.table.get? id = some n ∧ x = r) ∨ (r.table.get? id = none ∧ r.create id = (x, n)) := by
  cases hn : r.table.get? id with
  | some m =>
      rw [openSession_of_some h hn] at hx
      cases hx
      exact .inl ⟨rfl, rfl⟩
  | none => exact .inr ⟨rfl, openSession_of_none hn ▸ hx⟩

@[simp] lemma bindings_liftBan (s : Session) : (s.liftBan p now).bindings = s.bindings := by
  unfold Session.liftBan; split <;> rfl

@[simp] lemma members_liftBan (s : Session) : (s.liftBan p now).members = s.members := by
  unfold Session.liftBan; split <;> rfl

@[simp] lemma closed_liftBan (s : Session) : (s.liftBan p now).closed = s.closed := by
  unfold Session.liftBan; split <;> rfl

@[simp] lemma id_liftBan (s : Session) : (s.liftBan p now).id = s.id := by
  unfold Session.liftBan; split <;> rfl

/-- There is nothing to lift where there is no ban. -/
lemma liftBan_eq_self {s : Session} (h : s.bans.get? p = none) : s.liftBan p now = s := by
  rw [Session.liftBan, Table.erase_of_none h]
  split <;> rfl

lemma bindings_lifted (r : Roster) (n m : SessionNo) :
    ((r.changeSession n (·.liftBan p now)).session m).bindings = (r.session m).bindings :=
  session_changeSession_congr Session.bindings bindings_liftBan n m

lemma find?_lifted (r : Roster) (n m : SessionNo) (peer : PeerId) :
    ((r.changeSession n (·.liftBan p now)).session m).find? peer = (r.session m).find? peer := by
  rw [Session.find?, bindings_lifted, Session.find?]

/-- **Every bind ends in one of the five ways**, in the roster and the session that its search
ended with. -/
theorem enters_bind {x : Roster} (hx : r.openSession g.session = (x, n)) (now : Instant)
    (link : LinkNo) (peer : PeerId) :
    Enters x n now link peer g (r.bind now link peer g).1 (r.bind now link peer g).2 := by
  have hfind : ((x.changeSession n (·.liftBan peer now)).session n).find? peer =
      (x.session n).find? peer := find?_lifted x n n peer
  simp only [bind]
  simp only [hx, hfind]
  cases hban : (x.session n).isBanned peer now with
  | true =>
      simp only [if_true]
      exact .banned hban
  | false =>
      simp only [Bool.false_eq_true, if_false]
      cases hb : (x.session n).find? peer with
      | none => exact .welcomed hban (Session.find?_eq_none_iff.mp hb)
      | some b =>
          dsimp only
          split
          · exact .mismatched hban hb ‹_›
          split
          · exact .refreshed hban hb (not_not.mp ‹_›) ‹_›
          · exact .takenOver hban hb (not_not.mp ‹_›) ‹_›

/-- Every bind of a sound roster ends so: only a peer that comes new may have its session made. -/
theorem binds_bind (h : r.Sound) (now : Instant) (link : LinkNo) (peer : PeerId) (g : Grant) :
    Binds r now link peer g (r.bind now link peer g).1 (r.bind now link peer g).2 := by
  obtain ⟨x, n, hx⟩ : ∃ x n, r.openSession g.session = (x, n) := ⟨_, _, rfl⟩
  have henters := enters_bind hx now link peer
  generalize (r.bind now link peer g).1 = r', (r.bind now link peer g).2 = outcome at henters ⊢
  rcases openSession_cases h hx with ⟨hn, rfl⟩ | ⟨-, hcreate⟩
  · cases henters with
    | banned hban => exact .banned hn hban
    | mismatched hban hb hs => exact .mismatched hn hban hb hs
    | refreshed hban hb hs hl => exact .refreshed hn hban hb hs hl
    | takenOver hban hb hs hl => exact .takenOver hn hban hb hs hl
    | welcomed hban hp => exact .welcomed hx hban hp
  · -- a session that was just made keeps nobody out and has nobody in it
    have hs := session_create_self r g.session
    rw [hcreate] at hs
    have hnone : (x.session n).find? peer = none := by rw [hs]; rfl
    cases henters with
    | banned hban =>
        rw [hs] at hban
        contradiction
    | mismatched _ hb | refreshed _ hb | takenOver _ hb =>
        rw [hnone] at hb
        contradiction
    | welcomed hban hp => exact .welcomed hx hban hp

/-! ## Acts keep a roster sound -/

/-- A roster with a new session is sound, but for the new session. -/
lemma sound_create (h : r.Sound) (id : SessionId) :
    (r.create id).1.SoundBut (some r.sessions.size) none := by
  have hs := session_create (r := r) id
  have hb : ∀ m, ((r.create id).1.session m).bindings = (r.session m).bindings := by
    intro m
    rw [hs]
    split
    · subst m
      rw [session_of_le (Nat.le_refl _)]
      rfl
    · rfl
  have ht : ∀ id' m, (r.create id).1.table.get? id' = some m →
      (id = id' ∧ m = r.sessions.size) ∨ r.table.get? id' = some m := by
    intro id' m hm
    rw [show (r.create id).1.table = r.table.insert id r.sessions.size from rfl,
      Table.get?_insert] at hm
    split at hm
    · exact .inl ⟨‹_›, (Option.some.inj hm).symm⟩
    · exact .inr hm
  refine ⟨?_, ?_, ?_, ?_⟩
  · intro m
    rw [hs]
    split
    · exact Session.tidy_start id
    · exact h.tidy m
  · intro seat b
    rw [hb]
    exact h.joined seat b
  · intro id' m hm
    have hsize : (r.create id).1.sessions.size = r.sessions.size + 1 := Store.size_add ..
    rw [hs, hsize]
    rcases ht id' m hm with ⟨rfl, rfl⟩ | hm
    · exact ⟨Nat.lt_succ_self _, by rw [if_pos rfl]; rfl⟩
    · rcases h.keyed id' m hm with ⟨hlt, hid⟩
      exact ⟨Nat.lt_succ_of_lt hlt, by rw [if_neg (Nat.ne_of_lt hlt)]; exact hid⟩
  · intro id' m hm
    rw [hb]
    rcases ht id' m hm with ⟨rfl, rfl⟩ | hm
    · exact .inl rfl
    · exact .inr (h.ne_nil_of_table hm)

/-- The session that a bind opens is in the table and open. -/
lemma sound_openSession (h : r.Sound) {x : Roster} (hx : r.openSession id = (x, n)) :
    x.SoundBut (some n) none ∧ x.table.get? id = some n ∧ (x.session n).closed = false := by
  rcases openSession_cases h hx with ⟨hn, rfl⟩ | ⟨-, hcreate⟩
  · exact ⟨h.weaken _, hn, h.closed_eq_false hn⟩
  · have hpend := sound_create h id
    have hs := session_create_self r id
    have ht := get?_table_create_self r id
    rw [hcreate] at hpend hs ht
    obtain rfl : r.sessions.size = n := congrArg Prod.snd hcreate
    exact ⟨hpend, ht, by rw [hs]; rfl⟩

section Frame

variable {pending : Option SessionNo} {ghost : Option Binding}

lemma sound_liftBan (h : r.SoundBut pending ghost) (p : PeerId) (now : Instant) (n : SessionNo) :
    (r.changeSession n (·.liftBan p now)).SoundBut pending ghost :=
  h.changeSession_frame bindings_liftBan members_liftBan closed_liftBan id_liftBan

lemma sound_purses (h : r.SoundBut pending ghost) (purses : Purses) :
    ({ r with purses } : Roster).SoundBut pending ghost :=
  h.congr rfl rfl rfl

lemma sound_ledger (h : r.SoundBut pending ghost) (ledger : Ledger) :
    ({ r with ledger } : Roster).SoundBut pending ghost :=
  h.congr rfl rfl rfl

end Frame

/-- A peer that is bound may be noted as a member again. -/
lemma sound_noteMember (h : r.Sound) (hp : p ∈ (r.session n).peers) :
    (r.changeSession n (·.noteMember p)).Sound := by
  refine h.changeSession (fun _ => rfl) (fun _ => rfl) ?_
  rcases Session.mem_peers.mp hp with ⟨b, hb, -⟩
  rw [session_changeSession (lt_size_of_mem hb), if_pos rfl]
  exact (h.tidy n).noteMember hp

lemma Binds.sound {outcome : Except RelayFault SessionNo}
    (hr' : Binds r now link peer g r' outcome) (h : r.Sound) : r'.Sound := by
  cases hr' with
  | banned => exact h
  | mismatched => exact sound_liftBan h _ _ _
  | refreshed hn hban hb hs hl =>
      rename_i n b
      refine sound_purses (sound_noteMember (sound_liftBan h _ _ _) ?_) _
      rw [Session.peers, bindings_lifted]
      exact Session.mem_peers_of_find? hb
  | takenOver hn hban hb hs hl =>
      rename_i n b
      have hmem := Session.mem_of_find? hb
      have hsess : b.session = n := (h.tidy n).home b hmem
      have hlift : ({ r.changeSession n (·.liftBan peer now) with
          purses := r.purses.copy b.purse } : Roster).Sound :=
        sound_purses (sound_liftBan h _ _ _) _
      have hold : b ∈ ((r.changeSession n (·.liftBan peer now)).session b.session).bindings := by
        rw [bindings_lifted, hsess]
        exact hmem
      exact sound_purses
        (sound_takeOver (b := b.movedTo link g.isAdmin r.purses.size) hlift hold rfl hl) _
  | welcomed hx hban hp =>
      rename_i x n
      rcases sound_openSession h hx with ⟨hpend, ht, hc⟩
      refine sound_purses (sound_bindNew (sound_purses (sound_liftBan hpend _ _ _) _) ?_ ?_ ?_) _
      · exact Nat.lt_of_lt_of_eq (hpend.keyed _ n ht).1 size_changeSession.symm
      · show peer ∉ ((x.changeSession n _).session n).peers
        rwa [Session.peers, bindings_lifted]
      · show ((x.changeSession n _).session n).closed = false
        rw [session_changeSession_congr Session.closed closed_liftBan]
        exact hc

lemma sound_bind (h : r.Sound) : (r.bind now link peer g).1.Sound :=
  (binds_bind h now link peer g).sound h

/-- What every leave keeps, leaving for all peers of a connection keeps. -/
lemma leaveAll_induction {motive : Roster → Prop}
    (hleave : ∀ r peer, motive r → motive (r.leave link peer).1) (h : motive r) :
    motive (r.leaveAll link) := by
  simp only [leaveAll]
  induction r.peersOf link generalizing r with
  | nil => exact h
  | cons peer peers ih => exact ih (hleave r peer h)

/-- A kick makes its target leave, perhaps after a ban, or does nothing. -/
lemma kick_cases (r : Roster) (now : Instant) (link : LinkNo) (source target : PeerId)
    (banSeconds : UInt32) :
    (r.kick now link source target banSeconds).1 = r ∨ ∃ held,
      (r.kick now link source target banSeconds).1 = (r.leave held target).1 ∨
        ∃ n last, (r.kick now link source target banSeconds).1 =
          ((r.changeSession n (·.ban target last)).leave held target).1 := by
  simp only [kick]
  split
  · exact .inl rfl
  split
  · exact .inl rfl
  split
  · exact .inl rfl
  · dsimp only
    split
    · exact .inr ⟨_, .inl rfl⟩
    · exact .inr ⟨_, .inr ⟨_, _, rfl⟩⟩

lemma sound_leave (h : r.Sound) : (r.leave link peer).1.Sound := by
  simp only [leave]
  cases hb : r.joined.get? ⟨link, peer⟩ with
  | none => exact h
  | some b =>
      rcases h.joined_iff.mp hb with ⟨hmem, hseat⟩
      exact SoundBut.remove (SoundBut.haunt h hmem rfl rfl (by rw [hseat])) hmem

lemma sound_leaveAll (h : r.Sound) : (r.leaveAll link).Sound :=
  leaveAll_induction (fun _ _ => sound_leave) h

lemma sound_kick (h : r.Sound) {source target : PeerId} {banSeconds : UInt32} :
    (r.kick now link source target banSeconds).1.Sound := by
  rcases kick_cases r now link source target banSeconds with
    hkick | ⟨held, hkick | ⟨n, last, hkick⟩⟩
  · rwa [hkick]
  · rw [hkick]
    exact sound_leave h
  · rw [hkick]
    exact sound_leave (h.changeSession_frame (fun _ => rfl) (fun _ => rfl) (fun _ => rfl)
      fun _ => rfl)

/-! ## Rotations -/

/-- The ways in which a rotation may end. -/
inductive Rotates (env : Environment) (r : Roster) (link : LinkNo) (source : PeerId)
    (message : Bytes) : Roster → Except RelayFault Unit → Prop where
  /-- Nothing happens. -/
  | refused (e : RelayFault) : Rotates env r link source message r (.error e)
  /-- The cookie names one id twice and is used up. -/
  | spent {b : Binding} {c : RotationCookie} (ledger : Ledger)
      (hb : r.binding? link source = some b)
      (hc : Rotation.openedCookie env message = .ok c)
      (hold : (r.session b.session).id = Rotation.oldId env c)
      (hl : r.ledger.redeemRotation? c.paymentTag (Rotation.endTime env c) = some ledger)
      (hnew : Rotation.newId env c = Rotation.oldId env c) :
      Rotates env r link source message { r with ledger } (.ok ())
  /-- The session of the admin has another id now. -/
  | moved {b : Binding} {c : RotationCookie} (ledger : Ledger)
      (hb : r.binding? link source = some b)
      (hc : Rotation.openedCookie env message = .ok c)
      (hold : (r.session b.session).id = Rotation.oldId env c)
      (hl : r.ledger.redeemRotation? c.paymentTag (Rotation.endTime env c) = some ledger)
      (hnew : Rotation.newId env c ≠ Rotation.oldId env c) :
      Rotates env r link source message
        (({ r with ledger } : Roster).rename b.session (Rotation.newId env c)) (.ok ())

/-- **Every rotation of a sound roster ends in one of the three ways.** -/
theorem rotates_rotate (h : r.Sound) (env : Environment) (now : Moment) (link : LinkNo)
    (source : PeerId) (message : Bytes) :
    Rotates env r link source message (r.rotate env now link source message).1
      (r.rotate env now link source message).2 := by
  simp only [rotate]
  cases hb : r.binding? link source with
  | none => exact .refused _
  | some b =>
      dsimp only
      split
      · exact .refused _
      cases hc : Rotation.openedCookie env message with
      | error e => exact .refused e
      | ok c =>
          dsimp only
          unfold rotateBy
          split
          · exact .refused _
          split
          · exact .refused _
          rename_i hold
          split
          · exact .refused _
          rename_i ledger hl
          dsimp only
          split
          · rename_i hnew
            exact .spent ledger hb hc (not_not.mp hold).symm hl hnew
          rename_i hnew
          -- the admin is in the session, so this is not closed
          have hmem := (h.joined_iff.mp hb).1
          have hopen : (r.session b.session).closed = false := by
            rw [Bool.eq_false_iff]
            intro hcl
            exact List.not_mem_nil ((h.tidy _).closed hcl ▸ hmem)
          have hopen' : (({ r with ledger } : Roster).session b.session).closed = false := hopen
          simp only [hopen', Bool.false_eq_true, if_false]
          exact .moved ledger hb hc (not_not.mp hold).symm hl hnew

/-- The ids after a session was given a new one. -/
lemma get?_table_rename {new id : SessionId} (hne : (r.session n).id ≠ new) :
    (r.rename n new).table.get? id =
      if new = id then some n
      else (r.table.get? id).filter fun m => ¬ (m = n ∧ (r.session n).id = id) := by
  unfold rename
  dsimp only
  rw [Table.get?_erase_if_eq, Table.get?_insert]
  split
  · rename_i he
    have he' : (r.session n).id ≠ id := he ▸ hne
    simp [Option.filter_some, he']
  · rfl

/-- What a session is after one was given a new id. -/
lemma session_rename (hn : (r.session n).bindings ≠ []) (new : SessionId) (m : SessionNo) :
    (r.rename n new).session m =
      if m = n then { r.session n with id := new } else r.session m :=
  session_changeSession (lt_size_of_ne_nil hn) _ m

/-- A roster stays sound when a session with somebody in it is given a new id. -/
lemma sound_rename (h : r.Sound) (hn : (r.session n).bindings ≠ []) {new : SessionId}
    (hne : (r.session n).id ≠ new) : (r.rename n new).Sound := by
  have hs := session_rename hn new
  have hb : ∀ m, ((r.rename n new).session m).bindings = (r.session m).bindings :=
    session_changeSession_congr (f := fun s => { s with id := new }) Session.bindings
      (fun _ => rfl) n
  refine ⟨?_, ?_, ?_, ?_⟩
  · intro m
    rw [hs]
    split
    · subst m
      exact (h.tidy n).congr rfl rfl rfl
    · exact h.tidy m
  · intro seat b
    rw [hb]
    exact h.joined seat b
  · intro id m hm
    have hsize : (r.rename n new).sessions.size = r.sessions.size :=
      size_changeSession (f := fun s => { s with id := new })
    rw [get?_table_rename hne] at hm
    rw [hs, hsize]
    split at hm
    · cases hm
      exact ⟨lt_size_of_ne_nil hn, by rw [if_pos rfl]; assumption⟩
    · rw [Option.filter_eq_some_iff, decide_eq_true_eq] at hm
      rcases h.keyed id m hm.1 with ⟨hlt, hid⟩
      refine ⟨hlt, ?_⟩
      rw [if_neg]
      · exact hid
      · rintro rfl
        exact hm.2 ⟨rfl, hid⟩
  · intro id m hm
    rw [get?_table_rename hne] at hm
    rw [hb]
    split at hm
    · cases hm
      exact .inr hn
    · rw [Option.filter_eq_some_iff] at hm
      exact .inr (h.ne_nil_of_table hm.1)

lemma Rotates.sound {env : Environment} {source : PeerId} {message : Bytes}
    {outcome : Except RelayFault Unit} (hr' : Rotates env r link source message r' outcome)
    (h : r.Sound) : r'.Sound := by
  cases hr' with
  | refused => exact h
  | spent => exact sound_ledger h _
  | moved ledger hb hc hold hl hnew =>
      have hmem := (h.joined_iff.mp hb).1
      exact sound_rename (sound_ledger h ledger) (List.ne_nil_of_mem hmem)
        (fun e => hnew (e.symm.trans hold))

/-! ## Runs -/

/-- Every act keeps a roster sound. -/
theorem sound_act {env : Environment} (now : Moment) (a : Act) (h : r.Sound) :
    (r.act env now a).Sound := by
  cases a with
  | bind link peer grant => exact sound_bind h
  | leave link peer => exact sound_leave h
  | leaveAll link => exact sound_leaveAll h
  | kick link source target banSeconds => exact sound_kick h
  | rotate link source message => exact (rotates_rotate h env now link source message).sound h
  | redeem tag allowance endTime => exact sound_ledger h _
  | forgetPayments => exact sound_ledger h _
  | charge purse amount => exact h.congr rfl rfl rfl
  | markListed n spacing =>
      refine h.changeSession_frame ?_ ?_ ?_ ?_ <;>
        · intro s
          simp only [Session.markListed]
          split <;> rfl
  | forceListing n => exact h.congr (by simp [act]) (by simp [act]) (by simp [act])
  | takeForced => exact h.congr rfl rfl rfl

lemma sound_empty : empty.Sound where
  tidy := fun _ => Session.tidy_start _
  joined := fun _ _ => iff_of_false nofun fun h => List.not_mem_nil h.1
  keyed := nofun
  inhabited := nofun

/-- Every reachable roster is sound. -/
theorem sound_run (env : Environment) (acts : List (Moment × Act)) :
    (empty.run env acts).Sound :=
  run_induction sound_act sound_empty acts

/-- **The views of a binding agree.**  After any run, a connection knows a binding exactly if the
binding's session lists it for that connection and peer, a session lists only its own bindings and
no peer twice, and its set of members is the set of the peers that it lists. -/
theorem views_agree (env : Environment) (acts : List (Moment × Act)) :
    (∀ link peer b, (empty.run env acts).binding? link peer = some b ↔
      b ∈ ((empty.run env acts).session b.session).bindings ∧ b.link = link ∧ b.peer = peer) ∧
    (∀ n, ∀ b ∈ ((empty.run env acts).session n).bindings, b.session = n) ∧
    (∀ n, (((empty.run env acts).session n).bindings.map (·.peer)).Nodup) ∧
    (∀ n p, ((empty.run env acts).session n).members.contains p = true ↔
      ∃ b ∈ ((empty.run env acts).session n).bindings, b.peer = p) := by
  have h := sound_run env acts
  refine ⟨?_, fun n => (h.tidy n).home, fun n => (h.tidy n).distinct, ?_⟩
  · intro link peer b
    rw [binding?, h.joined_iff]
    simp [Binding.seat]
  · intro n p
    rw [(h.tidy n).members, Session.mem_peers]

end Roster

end MeteredRelay
