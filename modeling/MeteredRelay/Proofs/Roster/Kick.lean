import MeteredRelay.Proofs.Roster.Leaving

/-!
# What a kick does

An admin names a peer, and the peer is looked up in the session of the admin.  It is then removed
through the connection that its binding names, by what that connection knows.  Only because the two
agree in every reachable roster, also after peers were taken over and moved and sessions were
rotated, is it the binding in the admin's own session that goes.

**`kick_evicts`** says when a kick succeeds and what it leaves behind: one binding is gone
(`Evicts`), the peer is banned in that session if a time was given, and a kick that is refused
changes nothing.  An admin may kick itself.
-/

namespace MeteredRelay

namespace Roster

variable {r r' : Roster} {n m : SessionNo} {b t : Binding} {source target : PeerId} {link : LinkNo}
  {now : Instant} {banSeconds : UInt32} {ban : Option Instant}

/-- The binding `t` is gone, with the ban `ban` of its peer in its session, if any, and nothing else
has changed. -/
structure Evicts (r r' : Roster) (t : Binding) (ban : Option Instant) : Prop where
  /-- The session listed the binding, and its connection knew it. -/
  listed : t ∈ (r.session t.session).bindings
  known : r.binding? t.link t.peer = some t
  /-- The session lists all others, in their order. -/
  left : (r'.session t.session).bindings = (r.session t.session).bindings.filter (· ≠ t)
  forgotten : r'.binding? t.link t.peer = none
  /-- No other binding of any connection is gone. -/
  seats : ∀ seat, seat ≠ t.seat → r'.joined.get? seat = r.joined.get? seat
  ban : (r'.session t.session).bans.get? t.peer = ban
  bans : ∀ p, p ≠ t.peer →
    (r'.session t.session).bans.get? p = (r.session t.session).bans.get? p
  id : (r'.session t.session).id = (r.session t.session).id
  lastListing : (r'.session t.session).lastListing = (r.session t.session).lastListing
  /-- Other sessions are as they were. -/
  sessions : ∀ n, n ≠ t.session → r'.session n = r.session n
  /-- If that was the last in its session, no id stands for the session any more. -/
  emptied : (r'.session t.session).bindings = [] →
    ∀ id, r'.lookup? id = (r.lookup? id).filter (· ≠ t.session)
  /-- If not, every id stands for what it stood for. -/
  entries : (r'.session t.session).bindings ≠ [] → ∀ id, r'.lookup? id = r.lookup? id
  /-- Nothing is paid. -/
  till : r'.till = r.till

/-! ## A ban before the peer leaves -/

/-- A ban changes nothing of the sessions but their bans. -/
lemma session_banFor_congr {α : Type} (f : Session → α)
    (hf : ∀ (s : Session) p last, f (s.ban p last) = f s) (m : SessionNo) :
    f ((r.banFor n target now banSeconds).session m) = f (r.session m) := by
  unfold banFor
  split
  · rfl
  · exact session_changeSession_congr f (fun s => hf s _ _) n m

lemma session_banFor_of_ne (hm : m ≠ n) :
    (r.banFor n target now banSeconds).session m = r.session m := by
  unfold banFor
  split
  · rfl
  · exact session_changeSession_of_ne hm

lemma sound_banFor (hr : r.Sound) : (r.banFor n target now banSeconds).Sound := by
  unfold banFor
  split
  · exact hr
  · exact hr.changeSession_frame (fun _ => rfl) (fun _ => rfl) (fun _ => rfl) fun _ => rfl

/-- Those who leave after a ban leave the roster without it, apart from the bans. -/
lemma Leaves.of_banFor {gone : Binding → Bool}
    (h : Leaves gone (r.banFor n target now banSeconds) r')
    (hn : ∃ b ∈ (r.session n).bindings, gone b = true) : Leaves gone r r' := by
  have hbindings (m : SessionNo) : ((r.banFor n target now banSeconds).session m).bindings =
      (r.session m).bindings := session_banFor_congr _ (fun _ _ _ => rfl) m
  have hrest : (r.banFor n target now banSeconds).sessions.size = r.sessions.size ∧
      (r.banFor n target now banSeconds).joined = r.joined ∧
      (r.banFor n target now banSeconds).table = r.table ∧
      (r.banFor n target now banSeconds).till = r.till := by
    unfold banFor
    split
    · exact ⟨rfl, rfl, rfl, rfl⟩
    · exact ⟨size_changeSession, rfl, rfl, rfl⟩
  obtain ⟨hsize, hjoined, htable, htill⟩ := hrest
  constructor
  case size => exact h.size.trans hsize
  case bindings => exact fun m => by rw [h.bindings, hbindings]
  case joined => exact hjoined ▸ h.joined
  case table => exact htable ▸ h.table
  case untouched =>
    intro m hstay
    rw [h.untouched m (by rwa [hbindings]), session_banFor_of_ne]
    rintro rfl
    obtain ⟨b, hb, hgone⟩ := hn
    rw [hstay b hb] at hgone
    contradiction
  case id => exact fun m => (h.id m).trans (session_banFor_congr _ (fun _ _ _ => rfl) m)
  case lastListing =>
    exact fun m => (h.lastListing m).trans (session_banFor_congr _ (fun _ _ _ => rfl) m)
  case till => exact h.till.trans htill

/-- A peer that leaves its session after a ban is the only one who leaves. -/
lemma leaves_banFor (hr : r.Sound) (ht : t ∈ (r.session n).bindings) :
    Leaves (fun b => decide (b = t)) r
      ((r.banFor n t.peer now banSeconds).leave t.link t.peer).1 := by
  have hbanned : (r.banFor n t.peer now banSeconds).Sound := sound_banFor hr
  have hlisted : t ∈ ((r.banFor n t.peer now banSeconds).session n).bindings := by
    rwa [session_banFor_congr Session.bindings fun _ _ _ => rfl]
  have hleaves : Leaves (fun b => decide (b = t)) (r.banFor n t.peer now banSeconds)
      ((r.banFor n t.peer now banSeconds).leave t.link t.peer).1 := by
    refine (leaves_leave hbanned t.link t.peer).congr hbanned fun m a ha => ?_
    rw [decide_eq_decide]
    exact hbanned.seat_eq_iff (hbanned.joined_of_mem hlisted) ha
  exact hleaves.of_banFor ⟨t, ht, decide_eq_true rfl⟩

/-- A peer that was bound is banned afterwards if there is a time for it, and not otherwise. -/
lemma bans_leave_banFor (hfree : r.Unbanned) (ht : t ∈ (r.session n).bindings) (m : SessionNo)
    (p : PeerId) :
    (((r.banFor n t.peer now banSeconds).leave t.link t.peer).1.session m).bans.get? p =
      if m = n ∧ p = t.peer then
        if banSeconds = 0 then none else some (now + Span.seconds banSeconds.toNat)
      else (r.session m).bans.get? p := by
  rw [lasting_bans.session_leave, bans_banFor (lt_size_of_mem ht)]
  have hnone := hfree n t.peer (Session.mem_peers.mpr ⟨t, ht, rfl⟩)
  by_cases hhere : m = n ∧ p = t.peer
  · obtain ⟨rfl, rfl⟩ := hhere
    by_cases hzero : banSeconds = 0
    · simp [hzero, hnone]
    · simp [hzero]
  · rw [if_neg fun he => hhere ⟨he.1, he.2.1⟩, if_neg hhere]

/-! ## Kicks -/

/-- If one binding leaves, everything else stays where it is. -/
lemma Leaves.evicts (h : Leaves (fun b => decide (b = t)) r r') (hr : r.Sound)
    (ht : t ∈ (r.session n).bindings)
    (hbans : ∀ m p, (r'.session m).bans.get? p =
      if m = n ∧ p = t.peer then ban else (r.session m).bans.get? p) :
    Evicts r r' t ban := by
  obtain rfl : t.session = n := (hr.tidy n).home t ht
  have hknown := hr.joined_of_mem ht
  have hstay (m : SessionNo) (hm : m ≠ t.session) : r'.session m = r.session m := by
    refine h.untouched m fun b hb => decide_eq_false ?_
    rintro rfl
    exact hm ((hr.tidy m).home b hb).symm
  have hentry (id : SessionId) (m : SessionNo) : r'.lookup? id = some m ↔
      r.lookup? id = some m ∧ ¬ (m = t.session ∧ (r'.session t.session).bindings = []) := by
    refine (h.table id m).trans (and_congr_right fun hm => ?_)
    by_cases he : m = t.session
    · simp [he]
    · rw [hstay m he]
      exact iff_of_true (hr.ne_nil_of_table hm) fun hnil => he hnil.1
  constructor
  case listed => exact ht
  case known => exact hknown
  case left =>
    rw [h.bindings]
    exact List.filter_congr fun b _ => (decide_not ..).symm
  case forgotten =>
    refine (h.joined t.seat).trans ?_
    rw [hknown]
    simp
  case seats =>
    intro seat hseat
    rw [h.joined]
    cases hb : r.joined.get? seat with
    | none => rfl
    | some b =>
        have hne : b ≠ t := fun e => hseat (e ▸ (hr.joined_iff.mp hb).2.symm)
        simp [Option.filter_some, hne]
  case ban => rw [hbans, if_pos ⟨rfl, rfl⟩]
  case bans => exact fun p hp => by rw [hbans, if_neg fun he => hp he.2]
  case id => exact h.id _
  case lastListing => exact h.lastListing _
  case sessions => exact hstay
  case emptied =>
    intro hnil id
    ext m
    rw [hentry, Option.filter_eq_some_iff, decide_eq_true_eq]
    simp [hnil]
  case entries =>
    intro hne id
    ext m
    rw [hentry, and_iff_left fun he => hne he.2]
  case till => exact h.till

/-- Only an admin kicks, and only peers of its session. -/
lemma Kicks.allowed {held : LinkNo}
    (hk : Kicks r now link source target banSeconds r' (.ok held)) :
    ∃ b, r.binding? link source = some b ∧ b.isAdmin = true ∧
      target ∈ (r.session b.session).peers := by
  cases hk with
  | kicked hb hadmin ht =>
      exact ⟨_, hb, hadmin, Session.mem_peers_of_find? ht⟩

/-- A kick that is allowed takes away one binding, and only that. -/
lemma Kicks.evicts (hr : r.Sound) (hfree : r.Unbanned) {held : LinkNo}
    (hk : Kicks r now link source target banSeconds r' (.ok held)) :
    ∃ b t, r.binding? link source = some b ∧ t.session = b.session ∧ t.peer = target ∧
      t.link = held ∧
      Evicts r r' t (if banSeconds = 0 then none
        else some (now + Span.seconds banSeconds.toNat)) := by
  cases hk with
  | kicked hb hadmin ht =>
      rename_i b t
      have hmem := Session.mem_of_find? ht
      obtain rfl : t.peer = target := Session.peer_of_find? ht
      exact ⟨b, t, hb, (hr.tidy _).home t hmem, rfl, rfl,
        (leaves_banFor hr hmem).evicts hr hmem (bans_leave_banFor hfree hmem)⟩

/-- A kick of a peer that an admin finds in its session succeeds. -/
lemma kick_of_find? (hr : r.Sound) (hb : r.binding? link source = some b)
    (hadmin : b.isAdmin = true) (ht : (r.session b.session).find? target = some t)
    (now : Instant) (banSeconds : UInt32) :
    (r.kick now link source target banSeconds).2 = .ok t.link := by
  simp only [kick, hb, hadmin, ht]
  change Except.map (fun _ => t.link)
    ((r.banFor b.session target now banSeconds).leave t.link target).2 = _
  rw [leave_of_find? hr ht]
  rfl

/-- **A kick succeeds exactly if an admin kicks a peer of its own session,** and then it takes one
binding away, bans its peer there if it is told for how long, and leaves all else as it is.  A kick
that fails changes nothing. -/
theorem kick_evicts (env : Environment) (acts : List (Moment × Act)) (now : Instant)
    (link : LinkNo) (source target : PeerId) (banSeconds : UInt32) :
    let r := empty.run env acts
    let r' := (r.kick now link source target banSeconds).1
    let outcome := (r.kick now link source target banSeconds).2
    ((∃ held, outcome = .ok held) ↔
      ∃ b, r.binding? link source = some b ∧ b.isAdmin = true ∧
        target ∈ (r.session b.session).peers) ∧
    (∀ held, outcome = .ok held → ∃ b t, r.binding? link source = some b ∧
      t.session = b.session ∧ t.peer = target ∧ t.link = held ∧
      Evicts r r' t (if banSeconds = 0 then none
        else some (now + Span.seconds banSeconds.toNat))) ∧
    (∀ e, outcome = .error e → r' = r) := by
  intro r r' outcome
  have hr : r.Sound := sound_run env acts
  have hkicks : Kicks r now link source target banSeconds r' outcome :=
    kicks_kick hr now link source target banSeconds
  refine ⟨⟨?_, ?_⟩, fun held hok => ?_, fun e he => ?_⟩
  · rintro ⟨held, hok⟩
    obtain ⟨b, hb, hadmin, htarget⟩ := (hok ▸ hkicks).allowed
    exact ⟨b, hb, hadmin, htarget⟩
  · rintro ⟨b, hb, hadmin, htarget⟩
    obtain ⟨t, ht⟩ := Option.ne_none_iff_exists'.mp
      (fun hnone => Session.find?_eq_none_iff.mp hnone htarget)
    exact ⟨t.link, kick_of_find? hr hb hadmin ht now banSeconds⟩
  · exact (hok ▸ hkicks).evicts hr (unbanned_run env acts)
  · exact hkicks.eq_of_error he

/-- An admin that kicks itself is gone and kept out for the time that it said, and the other peer of
its session stays. -/
theorem kick_evicts_the_admin_itself :
    let r := empty.run zeroKeyServer pairRun
    let r' := (r.kick 0 0 ⟨1⟩ ⟨1⟩ 60).1
    (∃ t, t.peer = ⟨1⟩ ∧ t.link = 0 ∧ Evicts r r' t (some 60000000000)) ∧
      (r'.session 0).peers = [⟨2⟩] := by
  intro r r'
  obtain ⟨b, t, -, -, hpeer, hlink, hevicts⟩ :=
    (kick_evicts zeroKeyServer pairRun 0 0 ⟨1⟩ ⟨1⟩ 60).2.1 0 (by decide +kernel)
  exact ⟨⟨t, hpeer, hlink, hevicts⟩, by decide +kernel⟩

end Roster

end MeteredRelay
