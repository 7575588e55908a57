import Mathlib.Data.List.Induction
import MeteredRelay.Proofs.Roster.Connections

/-!
# The table of sessions

The table should lead from the present id of a session with somebody in it to that session, so that
whoever joins by this id meets the others.  Sessions that are made, left and rotated keep it so
(`Entered.act`), with one exception: a rotation gives its session the new id even if this already
stands for another session with somebody in it.  That session keeps its id and its peers and loses
its entry, and the next peer that joins by the id does not meet them.

**`indexed_iff_no_displacement`** says that this is the only exception: the table is right at every
moment of a run exactly if no rotation of the run displaces a session.
**`displacement_loses_a_session`** is a short run with such a rotation.
-/

namespace MeteredRelay

namespace Roster

variable {env : Environment} {r r' : Roster} {n m : SessionNo} {b : Binding} {p peer : PeerId}
  {id : SessionId} {link : LinkNo} {source : PeerId} {g : Grant} {now : Instant}

/-- The table leads from the present id of each session with somebody in it to that session. -/
structure Entered (r : Roster) : Prop where
  entry : ∀ n, (r.session n).bindings ≠ [] → r.table.get? (r.session n).id = some n

namespace Entered

/-! ## Parts of an act -/

/-- What the table should say depends on who is bound and on the ids. -/
lemma congr (h : r.Entered) (hb : ∀ n, (r'.session n).bindings = (r.session n).bindings)
    (hi : ∀ n, (r'.session n).id = (r.session n).id) (ht : r'.table = r.table) : r'.Entered := by
  refine ⟨fun n hn => ?_⟩
  rw [hb] at hn
  rw [hi, ht]
  exact h.entry n hn

lemma of_sessions (h : r.Entered) (hs : r'.sessions = r.sessions) (ht : r'.table = r.table) :
    r'.Entered := by
  have hsess : ∀ n, r'.session n = r.session n := session_congr hs
  exact h.congr (fun n => by rw [hsess]) (fun n => by rw [hsess]) ht

lemma changeSession (h : r.Entered) {f : Session → Session}
    (hb : ∀ s, (f s).bindings = s.bindings) (hi : ∀ s, (f s).id = s.id) :
    (r.changeSession n f).Entered :=
  h.congr (session_changeSession_congr Session.bindings hb n)
    (session_changeSession_congr Session.id hi n) rfl

/-- A session that is made for an id that stands for none takes it from nobody. -/
lemma create (h : r.Entered) (hn : r.table.get? id = none) : (r.create id).1.Entered := by
  refine ⟨fun m hm => ?_⟩
  rw [session_create] at hm ⊢
  rw [show (r.create id).1.table = r.table.insert id r.sessions.size from rfl, Table.get?_insert]
  split at hm
  · exact absurd rfl hm
  · rename_i hne
    have hid := h.entry m hm
    rw [if_neg hne, if_neg]
    · exact hid
    · rintro rfl
      rw [hn] at hid
      contradiction

/-- A session that loses a peer and not its last keeps its entry. -/
lemma remove (h : r.Entered) (hlt : n < r.sessions.size) (p : PeerId) : (r.remove n p).Entered := by
  refine ⟨fun m hm => ?_⟩
  rw [session_remove hlt] at hm ⊢
  rw [get?_table_remove hlt, Option.filter_eq_some_iff, decide_eq_true_eq]
  split at hm
  · rename_i he
    subst he
    have hne : (r.session m).bindings ≠ [] := by
      intro hnil
      simp [Session.remove, hnil] at hm
    rw [if_pos rfl]
    exact ⟨h.entry m hne, fun hl => hm hl.2.2⟩
  · rename_i he
    rw [if_neg he]
    exact ⟨h.entry m hm, fun hl => he hl.1⟩

/-- A binding that settles needs the entry of its session. -/
lemma settles (h : r.Entered) (hset : Settles r r' b)
    (hb : r.table.get? (r.session b.session).id = some b.session) : r'.Entered := by
  refine ⟨fun m hm => ?_⟩
  rw [hset.table]
  by_cases hs : m = b.session
  · rw [hs, hset.id]
    exact hb
  · rw [hset.others m hs] at hm ⊢
    exact h.entry m hm

/-! ## Binding -/

lemma bindNew (h : r.Entered) (hr : r.SoundBut (some b.session) none)
    (ht : r.table.get? (r.session b.session).id = some b.session)
    (hp : b.peer ∉ (r.session b.session).peers) (hc : (r.session b.session).closed = false) :
    (r.bindNew b).Entered := by
  have hset := settles_welcome hr (hr.keyed _ _ ht).1 hp hc
  have hent := h.settles hset ht
  simp only [Roster.bindNew]
  cases hold : r.elsewhere b with
  | none => exact hent.of_sessions rfl rfl
  | some old => exact hent.remove (lt_size_of_mem (hset.mem_elsewhere hr hold).1) _

lemma takeOver (h : r.Entered) (hr : r.Sound) {old : Binding}
    (hold : old ∈ (r.session b.session).bindings) (hp : old.peer = b.peer)
    (hl : old.link ≠ b.link) : (r.takeOver old b).Entered := by
  have hset := settles_replace hr hold hp
  have hent := h.settles hset (h.entry _ (List.ne_nil_of_mem hold))
  unfold Roster.takeOver
  dsimp only
  rw [elsewhere_part hl]
  cases helse : r.elsewhere b with
  | none => exact hent
  | some other =>
      have hmem := (hset.mem_elsewhere (SoundBut.weaken hr b.session) helse).1
      refine Entered.remove ?_ ?_ _
      · exact hent.of_sessions rfl rfl
      · exact lt_size_of_mem hmem

/-- A bind enters its session in the table, or finds it there. -/
lemma binds {outcome : Except RelayFault SessionNo} (h : r.Entered) (hr : r.Sound)
    (hr' : Binds r now link peer g r' outcome) : r'.Entered := by
  have hlift : ∀ (x : Roster) (n : SessionNo) (purses : Purses), x.Entered →
      ({ x.changeSession n (·.liftBan peer now) with purses } : Roster).Entered :=
    fun x n purses hx => (hx.changeSession bindings_liftBan id_liftBan).of_sessions rfl rfl
  cases hr' with
  | banned => exact h
  | mismatched => exact hlift r _ _ h
  | refreshed hn hban hb hs hl =>
      rename_i n old
      have hnote : ((r.changeSession n (·.liftBan peer now)).changeSession n
          (·.noteMember peer)).Entered :=
        Entered.changeSession (h.changeSession bindings_liftBan id_liftBan) (fun _ => rfl)
          fun _ => rfl
      exact hnote.of_sessions rfl rfl
  | takenOver hn hban hb hs hl =>
      rename_i n old
      have hmem := Session.mem_of_find? hb
      have hsess : old.session = n := (hr.tidy n).home old hmem
      refine of_sessions (takeOver (b := old.movedTo link g.isAdmin r.purses.size)
        (hlift r n (r.purses.copy old.purse) h) ?_ ?_ ?_ hl) rfl rfl
      · exact sound_purses (sound_liftBan hr peer now n) _
      · show old ∈ ((r.changeSession n _).session old.session).bindings
        rw [bindings_lifted, hsess]
        exact hmem
      · rfl
  | welcomed hx hban hp =>
      rename_i x n
      rcases sound_openSession hr hx with ⟨hpend, ht, hc⟩
      have hent : x.Entered := by
        rcases openSession_cases hr hx with ⟨-, rfl⟩ | ⟨hn, hcreate⟩
        · exact h
        · have := h.create hn
          rwa [hcreate] at this
      refine of_sessions (bindNew (hlift x n x.purses.start hent) ?_ ?_ ?_ ?_) rfl rfl
      · exact sound_purses (sound_liftBan hpend peer now n) _
      · show x.table.get? ((x.changeSession n _).session n).id = some n
        rw [session_changeSession_congr Session.id id_liftBan, (hpend.keyed _ n ht).2]
        exact ht
      · show peer ∉ ((x.changeSession n _).session n).peers
        rwa [Session.peers, bindings_lifted]
      · show ((x.changeSession n _).session n).closed = false
        rw [session_changeSession_congr Session.closed closed_liftBan]
        exact hc

/-! ## Leaving -/

lemma leave (h : r.Entered) (hr : r.Sound) : (r.leave link peer).1.Entered := by
  simp only [Roster.leave]
  cases hb : r.joined.get? ⟨link, peer⟩ with
  | none => exact h
  | some b =>
      have hmem := (hr.joined_iff.mp hb).1
      refine Entered.remove ?_ ?_ _
      · exact h.of_sessions rfl rfl
      · exact lt_size_of_mem hmem

lemma leaveAll (h : r.Entered) (hr : r.Sound) : (r.leaveAll link).Entered :=
  (leaveAll_induction (motive := fun r => r.Entered ∧ r.Sound)
    (fun _ _ h => ⟨h.1.leave h.2, sound_leave h.2⟩) ⟨h, hr⟩).1

lemma kick (h : r.Entered) (hr : r.Sound) {target : PeerId} {banSeconds : UInt32} :
    (r.kick now link source target banSeconds).1.Entered := by
  rcases kick_cases r now link source target banSeconds with
    hkick | ⟨held, hkick | ⟨n, last, hkick⟩⟩
  · rwa [hkick]
  · rw [hkick]
    exact h.leave hr
  · rw [hkick]
    refine leave ?_ ?_
    · exact h.changeSession (fun _ => rfl) fun _ => rfl
    · exact hr.changeSession_frame (fun _ => rfl) (fun _ => rfl) (fun _ => rfl) fun _ => rfl

/-! ## Rotations -/

/-- A session may take an id that stands for none. -/
lemma rename (h : r.Entered) (hn : (r.session n).bindings ≠ []) {new : SessionId}
    (hne : (r.session n).id ≠ new) (hnew : r.table.get? new = none) : (r.rename n new).Entered := by
  refine ⟨fun m hm => ?_⟩
  rw [session_rename hn] at hm ⊢
  rw [get?_table_rename hne]
  split at hm
  · rename_i he
    rw [if_pos he, if_pos rfl, he]
  · rename_i he
    have hid := h.entry m hm
    rw [if_neg he, if_neg, hid]
    · simp [Option.filter_some, he]
    · rintro rfl
      rw [hnew] at hid
      contradiction

end Entered

/-- A session that takes an id from another takes its entry. -/
lemma not_entered_rename (hr : r.Sound) (hn : (r.session n).bindings ≠ []) {new : SessionId}
    (hne : (r.session n).id ≠ new) (hm : r.table.get? new = some m) :
    ¬ (r.rename n new).Entered := by
  intro h
  have hid := (hr.keyed new m hm).2
  have hmn : m ≠ n := fun e => hne (e ▸ hid)
  have hs : (r.rename n new).session m = r.session m := by
    rw [session_rename hn, if_neg hmn]
  have hentry := h.entry m (by rw [hs]; exact hr.ne_nil_of_table hm)
  rw [hs, hid, get?_table_rename hne, if_pos rfl] at hentry
  exact hmn (Option.some.inj hentry).symm

/-- A rotation cookie, shown by a peer on a connection, names an id of another session. -/
def Displacing (env : Environment) (r : Roster) (link : LinkNo) (source : PeerId)
    (message : Bytes) : Prop :=
  ∃ b c m, r.binding? link source = some b ∧ Rotation.openedCookie env message = .ok c ∧
    r.lookup? (Rotation.newId env c) = some m ∧ m ≠ b.session

/-- A rotation that succeeds and takes the entry of another session. -/
def Displaces (env : Environment) (now : Moment) (r : Roster) : Act → Prop
  | .rotate link source message =>
    (r.rotate env now link source message).2 = .ok () ∧ r.Displacing env link source message
  | _ => False

/-- A rotation spoils the table exactly if it succeeds and names an id of another session. -/
lemma Rotates.entered_iff {message : Bytes} {outcome : Except RelayFault Unit}
    (hrot : Rotates env r link source message r' outcome) (h : r.Entered) (hr : r.Sound) :
    r'.Entered ↔ ¬ (outcome = .ok () ∧ r.Displacing env link source message) := by
  cases hrot with
  | refused => simp [h]
  | spent ledger hb hc hold hl hnew =>
      rename_i b c
      have hmem := (hr.joined_iff.mp hb).1
      have hid := h.entry _ (List.ne_nil_of_mem hmem)
      refine iff_of_true (h.of_sessions rfl rfl) ?_
      rintro ⟨-, b', c', m, hb', hc', hm, hne⟩
      obtain rfl : b = b' := Option.some.inj (hb.symm.trans hb')
      obtain rfl : c = c' := Except.ok.inj (hc.symm.trans hc')
      -- the id that the cookie names twice stands for the admin's own session
      rw [lookup?, hnew, ← hold, hid] at hm
      exact hne (Option.some.inj hm).symm
  | moved ledger hb hc hold hl hnew =>
      rename_i b c
      have hmem := (hr.joined_iff.mp hb).1
      have hr' : ({ r with ledger } : Roster).Sound := sound_ledger hr ledger
      have h' : ({ r with ledger } : Roster).Entered := h.of_sessions rfl rfl
      have hn : (({ r with ledger } : Roster).session b.session).bindings ≠ [] :=
        List.ne_nil_of_mem hmem
      have hne : (({ r with ledger } : Roster).session b.session).id ≠ Rotation.newId env c :=
        fun e => hnew (e.symm.trans hold)
      cases hm : r.table.get? (Rotation.newId env c) with
      | none =>
          refine iff_of_true (h'.rename hn hne hm) ?_
          rintro ⟨-, b', c', m, hb', hc', hm', -⟩
          obtain rfl : c = c' := Except.ok.inj (hc.symm.trans hc')
          rw [lookup?, hm] at hm'
          contradiction
      | some m =>
          refine iff_of_false (not_entered_rename hr' hn hne hm) (not_not.mpr ⟨rfl, ?_⟩)
          refine ⟨b, c, m, hb, hc, hm, ?_⟩
          rintro rfl
          exact hne (hr.keyed _ _ hm).2

/-- **An act spoils the table exactly if it displaces a session.** -/
theorem entered_act_iff (now : Moment) (a : Act) (h : r.Entered) (hr : r.Sound) :
    (r.act env now a).Entered ↔ ¬ Displaces env now r a := by
  cases a with
  | bind link peer grant =>
      exact iff_of_true (h.binds hr (binds_bind hr now.instant link peer grant)) id
  | leave link peer => exact iff_of_true (h.leave hr) id
  | leaveAll link => exact iff_of_true (h.leaveAll hr) id
  | kick link source target banSeconds => exact iff_of_true (h.kick hr) id
  | rotate link source message =>
      exact (rotates_rotate hr env now link source message).entered_iff h hr
  | redeem tag allowance endTime => exact iff_of_true (h.of_sessions rfl rfl) id
  | forgetPayments => exact iff_of_true (h.of_sessions rfl rfl) id
  | charge purse amount => exact iff_of_true (h.of_sessions rfl rfl) id
  | markListed n spacing =>
      refine iff_of_true (h.changeSession ?_ ?_) id <;>
        · intro s
          simp only [Session.markListed]
          split <;> rfl
  | forceListing n => exact iff_of_true (h.of_sessions (by simp [act]) (by simp [act])) id
  | takeForced => exact iff_of_true (h.of_sessions rfl rfl) id

lemma entered_empty : empty.Entered := ⟨fun _ h => absurd rfl h⟩

/-! ## Where a join lands -/

/-- The session that a bind ends in is the one that the table leads to, if it leads to any. -/
lemma Binds.eq_of_entered {outcome : Except RelayFault SessionNo} (hr : r.Sound)
    (hr' : Binds r now link peer g r' outcome) (hn : outcome = .ok n)
    (hm : r.table.get? g.session = some m) : m = n := by
  cases hr' with
  | banned => contradiction
  | mismatched => contradiction
  | refreshed ht => exact (Option.some.inj (hm.symm.trans ht)).trans (Except.ok.inj hn)
  | takenOver ht => exact (Option.some.inj (hm.symm.trans ht)).trans (Except.ok.inj hn)
  | welcomed hx =>
      rw [openSession_of_some hr hm] at hx
      exact (congrArg Prod.snd hx).trans (Except.ok.inj hn)

/-! ## The whole table -/

/-- What the table of sessions is for. -/
structure Indexed (r : Roster) : Prop where
  /-- The table leads from the present id of a session with somebody in it to that session. -/
  entered : ∀ n, (r.session n).bindings ≠ [] → r.lookup? (r.session n).id = some n
  /-- The table leads to sessions with somebody in them, under their present ids. -/
  inhabited : ∀ id n, r.lookup? id = some n →
    (r.session n).bindings ≠ [] ∧ (r.session n).id = id
  /-- No two sessions with somebody in them have one id. -/
  unique : ∀ n m, (r.session n).bindings ≠ [] → (r.session m).bindings ≠ [] →
    (r.session n).id = (r.session m).id → n = m
  /-- A bind that succeeds puts the peer into its session, and everybody who was bound under the
  same id is in this session too. -/
  lands : ∀ now link peer g n, (r.bind now link peer g).2 = .ok n →
    (∃ b ∈ ((r.bind now link peer g).1.session n).bindings, b.link = link ∧ b.peer = peer) ∧
    ∀ m, (r.session m).id = g.session → ∀ p ∈ (r.session m).peers,
      m = n ∧ p ∈ ((r.bind now link peer g).1.session n).peers

/-- A sound roster with its entries is indexed. -/
lemma indexed_of_entered (h : r.Entered) (hr : r.Sound) : r.Indexed where
  entered := h.entry
  inhabited := fun id n hn => ⟨hr.ne_nil_of_table hn, (hr.keyed id n hn).2⟩
  unique := by
    intro n m hn hm hid
    have hent := h.entry n hn
    rw [hid, h.entry m hm] at hent
    exact (Option.some.inj hent).symm
  lands := by
    intro now link peer g n hn
    have hbinds := binds_bind hr now link peer g
    have hr' := hbinds.sound hr
    rcases hbinds.joined hr with ⟨hself, hothers⟩
    rcases hself n hn with ⟨b, hb, hsess⟩
    rcases hr'.joined_iff.mp hb with ⟨hmem, hseat⟩
    rw [hsess] at hmem
    rcases Binding.seat_eq_iff (b := ⟨peer, n, link, 0, false, 0⟩) |>.mp hseat with ⟨hlink, hpeer⟩
    refine ⟨⟨b, hmem, hlink, hpeer⟩, fun m hid p hp => ?_⟩
    rcases Session.mem_peers.mp hp with ⟨a, ha, rfl⟩
    have hm := h.entry m (List.ne_nil_of_mem ha)
    rw [hid] at hm
    obtain rfl : m = n := hbinds.eq_of_entered hr hn hm
    refine ⟨rfl, Session.mem_peers.mpr ?_⟩
    by_cases hap : a.peer = peer
    · exact ⟨b, hmem, hpeer.trans hap.symm⟩
    · have hj := (hothers a.seat hap).trans (hr.joined_of_mem ha)
      have := (hr'.joined_iff.mp hj).1
      rw [(hr.tidy m).home a ha] at this
      exact ⟨a, this, rfl⟩

/-- **The table is right at every moment of a run exactly if the run displaces no session.** -/
theorem indexed_iff_no_displacement (env : Environment) (acts : List (Moment × Act)) :
    (∀ as, as <+: acts → (empty.run env as).Indexed) ↔
      ∀ as a, as ++ [a] <+: acts → ¬ Displaces env a.1 (empty.run env as) a.2 := by
  constructor
  · intro h as a ha
    have has : (empty.run env as).Entered := ⟨(h as ((List.prefix_append as [a]).trans ha)).entered⟩
    have hstep : (empty.run env (as ++ [a])).Entered := ⟨(h _ ha).entered⟩
    rw [run_append] at hstep
    exact (entered_act_iff a.1 a.2 has (sound_run env as)).mp hstep
  · intro h as has
    refine indexed_of_entered ?_ (sound_run env as)
    induction as using List.reverseRecOn with
    | nil => exact entered_empty
    | append_singleton as a ih =>
        have hent := ih ((List.prefix_append as [a]).trans has)
        rw [run_append]
        exact (entered_act_iff a.1 a.2 hent (sound_run env as)).mpr (h as a has)

/-! ## A run that loses a session -/

/-- A server that asks for cookies; all its keys are zeros. -/
def zeroKeyServer : Environment :=
  .standard { cookieKey := some default } default (fun _ => default) fun _ => 0

/-- A cookie that moves a session from the owner's secret of zeros to that of ones. -/
def onesCookie : RotationCookie :=
  ⟨default, default, ⟨List.replicate 32 1, rfl⟩, 4, 1700000000, 7⟩

/-- Two admins found a session each, the second under the id that the first then moves to. -/
def displacingRun : List (Moment × Act) :=
  let now : Moment := ⟨0, 1700000000 * 1000000000⟩
  let grant (id : SessionId) : Grant := ⟨id, 4, true, 0⟩
  [(now, .redeem 7 1000 1700000000),
    (now, .bind 0 ⟨1⟩ (grant (Rotation.oldId zeroKeyServer onesCookie))),
    (now, .bind 1 ⟨2⟩ (grant (Rotation.newId zeroKeyServer onesCookie))),
    (now, .rotate 0 ⟨1⟩ (onesCookie.sealed zeroKeyServer.cipher default default))]

/-- **A rotation onto the id of another session loses that session.**  Its peer is still bound, but
the table leads from its id to the session that was moved. -/
theorem displacement_loses_a_session : ¬ (empty.run zeroKeyServer displacingRun).Indexed := by
  intro h
  have hlost : ((empty.run zeroKeyServer displacingRun).session 1).bindings ≠ [] ∧
      (empty.run zeroKeyServer displacingRun).lookup?
        ((empty.run zeroKeyServer displacingRun).session 1).id = some 0 := by
    decide +kernel
  have hentry := hlost.2.symm.trans (h.entered 1 hlost.1)
  exact absurd (Option.some.inj hentry) (by decide)

end Roster

end MeteredRelay
