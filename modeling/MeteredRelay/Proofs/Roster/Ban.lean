import MeteredRelay.Proofs.Roster.Index
import MeteredRelay.Proofs.Roster.Lasting

/-!
# Peers that are kept out

A kick with a ban removes a peer from its session and writes down the last instant of the ban.  From
then on the ban changes in two ways only: a bind of the peer to the session lifts it once it has
ended, and another kick with a ban replaces it (**`bans_act`**).  A kick needs the peer to be bound,
and a bind needs the ban to be over (`peers_act`), so that neither happens while the ban lasts
(`KeptOut.act`).

**`ban_holds`** says what this means for runs: a peer that was kicked with a ban is not bound in the
session, and every bind of it that is led there is refused, up to the last instant of the ban; after
it no bind is refused for a ban unless there was another one.  The ban goes by the session and not
by the id that it has, so rotations do not matter.  Along the way it is seen that a peer that is
bound in a session is under no ban there, not even one that has ended (**`unbanned_run`**).
-/

namespace MeteredRelay

namespace Roster

variable {env : Environment} {r r' : Roster} {n m : SessionNo} {b : Binding} {p peer : PeerId}
  {link : LinkNo} {g : Grant} {now : Moment} {last : Instant}

/-- An act that keeps a peer out of a session for a while: a kick, with a ban, that succeeds. -/
def Bans (now : Moment) (r : Roster) (n : SessionNo) (p : PeerId) : Act → Prop
  | .kick link source target banSeconds =>
    target = p ∧ banSeconds ≠ 0 ∧ (∃ b, r.binding? link source = some b ∧ b.session = n) ∧
      ∃ held, (r.kick now.instant link source target banSeconds).2 = .ok held
  | _ => False

/-! ## What acts do to bans -/

/-- What a session is after a peer left one. -/
lemma session_leave (hb : r.joined.get? ⟨link, peer⟩ = some b) (hlt : b.session < r.sessions.size)
    (m : SessionNo) : (r.leave link peer).1.session m =
      if m = b.session then (r.session m).remove b.peer else r.session m := by
  simp only [leave, hb]
  rw [session_remove]
  · split
    · rename_i hm
      rw [hm]
      rfl
    · rfl
  · exact hlt

lemma bans_banFor (hlt : n < r.sessions.size) (target : PeerId) (now : Instant)
    (banSeconds : UInt32) (m : SessionNo) (p : PeerId) :
    ((r.banFor n target now banSeconds).session m).bans.get? p =
      if m = n ∧ p = target ∧ banSeconds ≠ 0 then some (now + Span.seconds banSeconds.toNat)
      else (r.session m).bans.get? p := by
  unfold banFor
  split
  · rename_i hzero
    rw [if_neg fun h => h.2.2 hzero]
  · rename_i hzero
    rw [session_changeSession hlt]
    by_cases hm : m = n
    · rw [if_pos hm, hm]
      refine (Table.get?_insert ..).trans ?_
      simp [hzero, eq_comm]
    · rw [if_neg hm, if_neg fun h => hm h.1]

/-- A kick bans its target, and bans nobody else. -/
lemma Kicks.bans {t : Instant} {source target : PeerId} {banSeconds : UInt32} {held : LinkNo}
    (hr : r.Sound) (hk : Kicks r t link source target banSeconds r' (.ok held)) :
    ∃ b, r.binding? link source = some b ∧ target ∈ (r.session b.session).peers ∧
      target ∉ (r'.session b.session).peers ∧
      ∀ m p, (r'.session m).bans.get? p =
        if m = b.session ∧ p = target ∧ banSeconds ≠ 0 then
          some (t + Span.seconds banSeconds.toNat)
        else (r.session m).bans.get? p := by
  cases hk with
  | kicked hb hadmin ht =>
      rename_i b u
      have hmem := Session.mem_of_find? ht
      have hpeer := Session.peer_of_find? ht
      have hsess : u.session = b.session := (hr.tidy _).home u hmem
      refine ⟨b, hb, Session.mem_peers.mpr ⟨u, hmem, hpeer⟩, ?_, ?_⟩
      · have hknown : (r.banFor b.session target t banSeconds).joined.get? ⟨u.link, target⟩ =
            some u := by
          rw [← hr.binding?_of_find? ht]
          unfold banFor
          split <;> rfl
        have hlt : u.session < (r.banFor b.session target t banSeconds).sessions.size := by
          rw [hsess]
          unfold banFor
          split
          · exact lt_size_of_mem hmem
          · exact Nat.lt_of_lt_of_eq (lt_size_of_mem hmem) size_changeSession.symm
        rw [session_leave hknown hlt, if_pos hsess.symm, hpeer]
        simp
      · intro m p
        rw [lasting_bans.session_leave, bans_banFor (lt_size_of_mem hmem)]

/-- The bans of a session stay with it when its id changes. -/
lemma Rotates.bans {source : PeerId} {message : Bytes} {outcome : Except RelayFault Unit}
    (hr' : Rotates env r link source message r' outcome) (m : SessionNo) :
    (r'.session m).bans = (r.session m).bans := by
  cases hr' with
  | refused => rfl
  | spent => rfl
  | moved ledger hb hc hold hl hnew =>
      rename_i b c
      exact session_changeSession_congr (f := fun s => { s with id := Rotation.newId env c })
        Session.bans (fun _ => rfl) b.session m

/-- **What an act does to the ban of a peer in a session:** nothing, it lifts a ban that has ended,
or it is another kick with a ban. -/
theorem bans_act (hr : r.Sound) (env : Environment) (now : Moment) (a : Act) (n : SessionNo)
    (p : PeerId) :
    ((r.act env now a).session n).bans.get? p = (r.session n).bans.get? p ∨
      ((r.session n).isBanned p now.instant = false ∧
        ((r.act env now a).session n).bans.get? p = none) ∨
      Bans now r n p a := by
  have hsame : ((r.act env now a).session n).bans = (r.session n).bans →
      ((r.act env now a).session n).bans.get? p = (r.session n).bans.get? p :=
    fun h => by rw [h]
  cases a with
  | bind link peer g =>
      rcases (binds_bind hr now.instant link peer g).bans hr with
        ⟨hkept, -⟩ | ⟨k, hban, -, hbans⟩
      · exact .inl (hsame (by rw [act, hkept]))
      · rw [act, hbans]
        split
        · rename_i hk
          rw [Table.get?_erase]
          split
          · rename_i hp
            exact .inr (.inl ⟨by rw [← hp, hk]; exact hban, rfl⟩)
          · exact .inl rfl
        · exact .inl rfl
  | leave link peer => exact .inl (hsame lasting_bans.session_leave)
  | leaveAll link => exact .inl (hsame lasting_bans.session_leaveAll)
  | kick link source target banSeconds =>
      have hkicks := kicks_kick hr now.instant link source target banSeconds
      rw [act]
      obtain ⟨r', outcome, heq⟩ : ∃ r' outcome,
        r.kick now.instant link source target banSeconds = (r', outcome) := ⟨_, _, rfl⟩
      rw [heq] at hkicks ⊢
      cases outcome with
      | error e =>
          cases hkicks
          exact .inl rfl
      | ok held =>
          rcases hkicks.bans hr with ⟨b, hb, -, -, hbans⟩
          by_cases hkick : n = b.session ∧ p = target ∧ banSeconds ≠ 0
          · rcases hkick with ⟨rfl, rfl, hzero⟩
            exact .inr (.inr ⟨rfl, hzero, ⟨b, hb, rfl⟩, held, by rw [heq]⟩)
          · rw [hbans, if_neg hkick]
            exact .inl rfl
  | rotate link source message =>
      exact .inl (hsame ((rotates_rotate hr env now link source message).bans n))
  | markListed k spacing =>
      refine .inl (hsame (session_changeSession_congr Session.bans (fun s => ?_) k n))
      simp only [Session.markListed]
      split <;> rfl
  | forceListing k => exact .inl (hsame (by rw [act, session, sessions_forceListing]; rfl))
  | _ => exact .inl rfl

/-- A kick with a ban finds its target in the session and removes it. -/
lemma Bans.removes (hr : r.Sound) (env : Environment) {a : Act} (h : Bans now r n p a) :
    p ∈ (r.session n).peers ∧ p ∉ ((r.act env now a).session n).peers := by
  cases a with
  | kick link source target banSeconds =>
      rcases h with ⟨rfl, -, ⟨b, hb, rfl⟩, held, hok⟩
      have hkicks := kicks_kick hr now.instant link source target banSeconds
      rw [hok] at hkicks
      rcases hkicks.bans hr with ⟨c, hc, hbound, hgone, -⟩
      obtain rfl : b = c := Option.some.inj (hb.symm.trans hc)
      exact ⟨hbound, hgone⟩
  | _ => exact h.elim

/-- A peer comes to be bound in a session only where it is not kept out, and then it is under no ban
there. -/
lemma peers_act (hr : r.Sound) {a : Act} (hp : p ∈ ((r.act env now a).session n).peers) :
    p ∈ (r.session n).peers ∨ ((r.session n).isBanned p now.instant = false ∧
      ((r.act env now a).session n).bans.get? p = none) := by
  have hr' : (r.act env now a).Sound := sound_act now a hr
  rcases Session.mem_peers.mp hp with ⟨b, hb, rfl⟩
  obtain rfl : b.session = n := (hr'.tidy n).home b hb
  rcases joined_act hr (hr'.joined_of_mem hb) with hj | ⟨g, rfl, hok, -⟩
  · exact .inl (Session.mem_peers.mpr ⟨b, (hr.joined_iff.mp hj).1, rfl⟩)
  · rcases (binds_bind hr now.instant b.link b.peer g).bans hr with
      ⟨-, hbanned⟩ | ⟨k, hban, hk, hbans⟩
    · rw [hok] at hbanned
      contradiction
    · obtain rfl := hk b.session hok
      refine .inr ⟨hban, ?_⟩
      rw [act, hbans, if_pos rfl, Table.get?_erase, if_pos rfl]

/-! ## Who is bound is under no ban -/

/-- A peer that is bound in a session is under no ban there. -/
def Unbanned (r : Roster) : Prop :=
  ∀ n p, p ∈ (r.session n).peers → (r.session n).bans.get? p = none

lemma Unbanned.act (h : r.Unbanned) (hr : r.Sound) (now : Moment) (a : Act) :
    (r.act env now a).Unbanned := by
  intro n p hp
  rcases peers_act hr hp with hbound | ⟨-, hnone⟩
  · rcases bans_act hr env now a n p with hsame | ⟨-, hnone⟩ | hbans
    · rw [hsame, h n p hbound]
    · exact hnone
    · exact absurd hp (hbans.removes hr env).2
  · exact hnone

/-- **No peer is bound and banned in one session.** -/
theorem unbanned_run (env : Environment) (acts : List (Moment × Act)) :
    (empty.run env acts).Unbanned :=
  (run_induction (P := fun r => r.Unbanned ∧ r.Sound)
    (fun now a h => ⟨h.1.act h.2 now a, sound_act now a h.2⟩)
    ⟨fun _ _ h => absurd h List.not_mem_nil, sound_empty⟩ acts).1

/-! ## Up to the last instant -/

/-- A peer is not bound in a session, and under a ban there. -/
structure KeptOut (n : SessionNo) (p : PeerId) (last : Instant) (r : Roster) : Prop where
  absent : p ∉ (r.session n).peers
  ban : (r.session n).bans.get? p = some last

lemma KeptOut.isBanned (h : KeptOut n p last r) {t : Instant} (ht : t ≤ last) :
    (r.session n).isBanned p t = true := by
  rw [Session.isBanned, h.ban]
  exact decide_eq_true ht

/-- Nothing brings a peer back while its ban lasts. -/
lemma KeptOut.act (h : KeptOut n p last r) (hr : r.Sound) (hnow : now.instant ≤ last) (a : Act) :
    KeptOut n p last (r.act env now a) := by
  have hbanned := h.isBanned hnow
  constructor
  · intro hp
    rcases peers_act hr hp with hbound | ⟨hfree, -⟩
    · exact h.absent hbound
    · rw [hbanned] at hfree
      contradiction
  · rcases bans_act hr env now a n p with hsame | ⟨hfree, -⟩ | hbans
    · rw [hsame, h.ban]
    · rw [hbanned] at hfree
      contradiction
    · exact absurd (hbans.removes hr env).1 h.absent

/-- A kick with a ban keeps its target out. -/
lemma keptOut_of_bans (hr : r.Sound) {source : PeerId} {banSeconds : UInt32}
    (h : Bans now r n p (.kick link source p banSeconds)) :
    KeptOut n p (now.instant + Span.seconds banSeconds.toNat)
      (r.act env now (.kick link source p banSeconds)) := by
  refine ⟨(h.removes hr env).2, ?_⟩
  rcases h with ⟨-, hzero, ⟨b, hb, rfl⟩, held, hok⟩
  have hkicks := kicks_kick hr now.instant link source p banSeconds
  rw [hok] at hkicks
  rcases hkicks.bans hr with ⟨c, hc, -, -, hbans⟩
  obtain rfl : b = c := Option.some.inj (hb.symm.trans hc)
  rw [act, hbans, if_pos ⟨rfl, rfl, hzero⟩]

/-- A peer that is kept out is not let in. -/
lemma bind_of_isBanned (hr : r.Sound) {t : Instant} (hn : r.table.get? g.session = some n)
    (hban : (r.session n).isBanned peer t = true) :
    r.bind t link peer g = (r, .error (.coded .banned)) := by
  simp only [bind, openSession_of_some hr hn, hban, if_true]

/-- A refusal for a ban is due to one. -/
lemma Binds.isBanned {t : Instant} {outcome : Except RelayFault SessionNo}
    (hr' : Binds r t link peer g r' outcome) (hbanned : outcome = .error (.coded .banned)) :
    ∃ k, r.table.get? g.session = some k ∧ (r.session k).isBanned peer t = true := by
  cases hr' with
  | banned hk hban => exact ⟨_, hk, hban⟩
  | _ => cases hbanned

/-- A peer that is not kept out is not refused for a ban. -/
lemma bind_ne_banned (hr : r.Sound) {t : Instant} (hn : r.table.get? g.session = some n)
    (hban : (r.session n).isBanned peer t = false) :
    (r.bind t link peer g).2 ≠ .error (.coded .banned) := by
  intro hrefused
  rcases (binds_bind hr t link peer g).isBanned hrefused with ⟨k, hk, hbanned⟩
  obtain rfl := Option.some.inj (hn.symm.trans hk)
  rw [hban] at hbanned
  contradiction

/-! ## Runs -/

lemma KeptOut.run (h : KeptOut n p last r) (hr : r.Sound) {acts : List (Moment × Act)}
    (hlast : ∀ a ∈ acts, a.1.instant ≤ last) : KeptOut n p last (r.run env acts) := by
  induction acts generalizing r with
  | nil => exact h
  | cons a as ih =>
      rcases List.forall_mem_cons.mp hlast with ⟨ha, has⟩
      exact ih (h.act hr ha a.2) (sound_act a.1 a.2 hr) has

/-- Some act of a run is a kick of a peer, with a ban, from a session. -/
def BansIn (env : Environment) (r : Roster) (n : SessionNo) (p : PeerId)
    (acts : List (Moment × Act)) : Prop :=
  ∃ as a, as ++ [a] <+: acts ∧ Bans a.1 (r.run env as) n p a.2

/-- Without another ban there is only the one that was. -/
lemma ban_run (hr : r.Sound) (hban : ∀ t ∈ (r.session n).bans.get? p, t = last)
    {acts : List (Moment × Act)} (hno : ¬ BansIn env r n p acts) :
    ∀ t ∈ ((r.run env acts).session n).bans.get? p, t = last := by
  induction acts generalizing r with
  | nil => exact hban
  | cons a as ih =>
      refine ih (sound_act a.1 a.2 hr) ?_ ?_
      · rcases bans_act hr env a.1 a.2 n p with hsame | ⟨-, hnone⟩ | hbans
        · rwa [hsame]
        · rw [hnone]
          exact nofun
        · exact absurd ⟨[], a, List.prefix_append [a] as, hbans⟩ hno
      · rintro ⟨bs, b, hprefix, hbans⟩
        exact hno ⟨a :: bs, b, List.cons_prefix_cons.mpr ⟨rfl, hprefix⟩, hbans⟩

/-- **A ban holds.**  After a kick with a ban, and whatever else has happened since, the peer is not
bound in the session as long as no later act comes after the last instant of the ban.  A bind of the
peer that is led to the session, and that comes before none of these acts, is refused up to that
instant, and changes nothing; after it, it is not refused for a ban, unless another ban of the peer
in the session is among the acts. -/
theorem ban_holds (env : Environment) (before after : List (Moment × Act)) (t : Moment)
    (link : LinkNo) (source p : PeerId) (banSeconds : UInt32) (n : SessionNo)
    (hkick : Bans t (empty.run env before) n p (.kick link source p banSeconds)) :
    let last := t.instant + Span.seconds banSeconds.toNat
    let kicked := (empty.run env before).act env t (.kick link source p banSeconds)
    let r := kicked.run env after
    ((∀ a ∈ after, a.1.instant ≤ last) → p ∉ (r.session n).peers) ∧
    ∀ now link' g, (∀ a ∈ after, a.1.instant ≤ now) → r.lookup? g.session = some n →
      (now ≤ last → r.bind now link' p g = (r, .error (.coded .banned))) ∧
      (last < now → ¬ BansIn env kicked n p after →
        (r.bind now link' p g).2 ≠ .error (.coded .banned)) := by
  intro last kicked r
  have hbefore : (empty.run env before).Sound := sound_run env before
  have hkicked : kicked.Sound := sound_act t _ hbefore
  have hr : r.Sound := run_induction sound_act hkicked after
  have hout : KeptOut n p last kicked := keptOut_of_bans hbefore hkick
  refine ⟨fun hlast => (hout.run hkicked hlast).absent, ?_⟩
  intro now link' g hlater hlookup
  constructor
  · intro hnow
    refine bind_of_isBanned hr hlookup ((hout.run hkicked fun a ha => ?_).isBanned hnow)
    exact Int.le_trans (hlater a ha) hnow
  · intro hnow hno
    refine bind_ne_banned hr hlookup ?_
    have hkept : ∀ t ∈ (kicked.session n).bans.get? p, t = last := by
      rw [hout.ban]
      rintro t ⟨⟩
      rfl
    have hban := ban_run hkicked hkept hno
    rw [Session.isBanned]
    cases hfound : (r.session n).bans.get? p with
    | none => rfl
    | some until_ =>
        rw [hban until_ hfound]
        exact decide_eq_false (Int.not_le.mpr hnow)

/-- The moment at which all of the following happens. -/
def noon : Moment := ⟨0, 1700000000 * 1000000000⟩

/-- A session with an admin and another peer. -/
def pairRun : List (Moment × Act) :=
  let grant : Grant := ⟨Rotation.oldId zeroKeyServer onesCookie, 4, true, 0⟩
  [(noon, .redeem 7 1000 1700000000), (noon, .bind 0 ⟨1⟩ grant), (noon, .bind 1 ⟨2⟩ grant)]

/-- The admin moves the session to another id. -/
def onwardRun : List (Moment × Act) :=
  [(noon, .rotate 0 ⟨1⟩ (onesCookie.sealed zeroKeyServer.cipher default default))]

/-- A ban of a minute outlives a rotation: it is in force at its last instant, and not at the
next. -/
theorem ban_holds_rotated :
    let kicked := (empty.run zeroKeyServer pairRun).act zeroKeyServer noon (.kick 0 ⟨1⟩ ⟨2⟩ 60)
    let r := kicked.run zeroKeyServer onwardRun
    let g : Grant := ⟨Rotation.newId zeroKeyServer onesCookie, 4, true, 0⟩
    ⟨2⟩ ∉ (r.session 0).peers ∧ r.bind 60000000000 1 ⟨2⟩ g = (r, .error (.coded .banned)) ∧
      (r.bind 60000000001 1 ⟨2⟩ g).2 ≠ .error (.coded .banned) := by
  intro kicked r g
  have hkick : Bans noon (empty.run zeroKeyServer pairRun) 0 ⟨2⟩ (.kick 0 ⟨1⟩ ⟨2⟩ 60) :=
    ⟨rfl, by decide, ⟨⟨⟨1⟩, 0, 0, 4, true, 0⟩, by decide +kernel, rfl⟩, 1, by decide +kernel⟩
  have hlookup : r.lookup? g.session = some 0 := by decide +kernel
  have hinstant (t : Instant) (ht : 0 ≤ t) : ∀ a ∈ onwardRun, a.1.instant ≤ t := by
    intro a ha
    rw [List.mem_singleton.mp ha]
    exact ht
  have hno : ¬ BansIn zeroKeyServer kicked 0 ⟨2⟩ onwardRun := by
    rintro ⟨as, a, hprefix, hbans⟩
    have ha : a ∈ onwardRun := hprefix.subset (List.mem_append_right as List.mem_cons_self)
    obtain rfl := List.mem_singleton.mp ha
    exact hbans
  have hholds := ban_holds zeroKeyServer pairRun onwardRun noon 0 ⟨1⟩ ⟨2⟩ 60 0 hkick
  refine ⟨hholds.1 (hinstant _ (by decide)), ?_, ?_⟩
  · exact (hholds.2 _ 1 g (hinstant _ (by decide)) hlookup).1 (by decide)
  · exact (hholds.2 _ 1 g (hinstant _ (by decide)) hlookup).2 (by decide) hno

end Roster

end MeteredRelay
