import MeteredRelay.Proofs.MemberSet
import MeteredRelay.Proofs.Roster.Placement

/-!
# Any set of peers may gather

Only a ban keeps a peer out of a session that it has not come to yet, so every set of peers is the
set of members of some session.  When peers come one after the other, each for the first time, the
first finds no session and makes one, and each later one finds it without bans (`Gathered.bind`).

**`members_gather`** says this of the set that listings are made of.  By then the session was not
listed, so a listing is due.
-/

namespace MeteredRelay

namespace Roster

variable {r r' : Roster} {ps : List PeerId} {p : PeerId} {link : LinkNo} {g : Grant}
  {now : Instant} {env : Environment}

/-- Some peers are bound to the first session, and nothing else has happened to it. -/
structure Gathered (r : Roster) (id : SessionId) (ps : List PeerId) : Prop where
  opened : ∀ n, r.lookup? id = some n → n = 0
  unopened : r.lookup? id = none → r.sessions.size = 0
  peers : ∀ p, p ∈ (r.session 0).peers ↔ p ∈ ps
  bans : (r.session 0).bans = Table.empty
  unlisted : (r.session 0).lastListing = none

lemma gathered_empty (id : SessionId) : empty.Gathered id [] :=
  ⟨nofun, fun _ => rfl, fun _ => Iff.rfl, rfl, rfl⟩

/-- A session without bans lets every peer in that it does not have. -/
lemma Binds.ok_of_notMem {outcome : Except RelayFault SessionNo}
    (hr' : Binds r now link p g r' outcome)
    (hopen : ∀ n, r.lookup? g.session = some n →
      (r.session n).bans = Table.empty ∧ p ∉ (r.session n).peers) :
    ∃ n, outcome = .ok n := by
  cases hr' with
  | banned hn hban =>
      rw [Session.isBanned, (hopen _ hn).1] at hban
      contradiction
  | mismatched hn hban hb =>
      exact absurd (Session.mem_peers_of_find? hb) (hopen _ hn).2
  | _ => exact ⟨_, rfl⟩

/-- One more peer comes. -/
lemma Gathered.bind (h : r.Gathered g.session ps) (hr : r.Sound) (hp : p ∉ ps) (now : Instant)
    (link : LinkNo) : (r.bind now link p g).1.Gathered g.session (ps ++ [p]) := by
  have hbinds := binds_bind hr now link p g
  obtain ⟨n, hok⟩ := hbinds.ok_of_notMem fun n hn => by
    obtain rfl := h.opened n hn
    exact ⟨h.bans, mt (h.peers p).mp hp⟩
  rw [hok] at hbinds
  obtain ⟨b, hplaces⟩ := hbinds.places hr
  obtain rfl : n = 0 := by
    rcases hplaces.opened with hn | ⟨hnone, hsize⟩
    · exact h.opened n hn
    · exact hsize.trans (h.unopened hnone)
  obtain ⟨x, hx, hban, hlast⟩ := hbinds.opened hr
  constructor
  case opened => exact fun n hn => Option.some.inj (hn.symm.trans hplaces.found)
  case unopened => exact fun hnone => absurd (hnone.symm.trans hplaces.found) nofun
  case peers =>
    intro q
    rw [hplaces.mem_peers, h.peers, List.mem_append, List.mem_singleton, or_comm]
  case bans =>
    rw [hlast Session.bans lasting_bans, bans_lifted hban, if_pos rfl, bans_openSession hr hx,
      h.bans]
    rfl
  case unlisted =>
    have hlift (s : Session) : (s.liftBan p now).lastListing = s.lastListing := by
      unfold Session.liftBan
      split <;> rfl
    rw [hlast Session.lastListing lasting_lastListing,
      session_changeSession_congr Session.lastListing hlift,
      session_openSession_congr Session.lastListing (fun _ => rfl) hr hx, h.unlisted]

/-- The peers of a set come one after the other, through one connection and with one grant. -/
def gather (link : LinkNo) (g : Grant) (now : Moment) (s : MemberSet) : List (Moment × Act) :=
  s.ids.map fun n => (now, .bind link ⟨n⟩ g)

lemma gathered_run (env : Environment) (link : LinkNo) (g : Grant) (now : Moment)
    {ids : List UInt32} (hids : ids.Nodup) :
    (empty.run env (ids.map fun n => (now, .bind link ⟨n⟩ g))).Gathered g.session
      (ids.map PeerId.mk) := by
  induction ids using List.reverseRecOn with
  | nil => exact gathered_empty g.session
  | append_singleton ids n ih =>
      obtain ⟨hnodup, -, hnew⟩ := List.nodup_append.mp hids
      rw [List.map_append, run_append, List.map_append]
      refine (ih hnodup).bind (sound_run env _) ?_ now.instant link
      intro hmem
      obtain ⟨m, hm, he⟩ := List.mem_map.mp hmem
      exact hnew m hm n (List.mem_singleton_self n) (PeerId.mk.inj he)

/-- **Every set of peers is the set of members of a session that may be listed.** -/
theorem members_gather (env : Environment) (link : LinkNo) (g : Grant) (now : Moment)
    (s : MemberSet) :
    let made := (empty.run env (gather link g now s)).session 0
    made.members = s ∧ made.lastListing = none := by
  intro made
  have hgathered := gathered_run env link g now (s.ascending.imp UInt32.ne_of_lt)
  refine ⟨MemberSet.eq_of_contains fun p => ?_, hgathered.unlisted⟩
  rw [((sound_run env (gather link g now s)).tidy 0).members p]
  refine (hgathered.peers p).trans ?_
  rw [MemberSet.contains, List.contains_iff_mem, List.mem_map]
  constructor
  · rintro ⟨n, hn, rfl⟩
    exact hn
  · exact fun hp => ⟨p.value, hp, rfl⟩

end Roster

end MeteredRelay
