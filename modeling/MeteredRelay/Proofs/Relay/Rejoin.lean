import MeteredRelay.Proofs.Relay.Admission
import MeteredRelay.Proofs.Relay.Refusal
import MeteredRelay.Proofs.Roster.Rejoin

/-!
# Joining again

A client that has lost the reply to its join sends the join again.  **`join_again`** says that this
does no harm: on a server with a key for cookies, a join that succeeded may come again on the same
connection as long as its cookie is good.  It succeeds again, and of all that the roster knows only
the queue of sessions that wait to be listed may change.
-/

namespace MeteredRelay

namespace Roster

lemma exists_forced (r : Roster) (n : SessionNo) :
    ∃ forced, r.forceListing n = { r with forced } := by
  unfold forceListing
  split
  · exact ⟨_, rfl⟩
  · exact ⟨r.forced, rfl⟩

end Roster

namespace Relay

variable {env : Environment} {now later : Moment} {q r s : Relay} {caller : LinkNo}
  {source : PeerId} {cookie : Bytes} {g : Grant} {n : SessionNo} {keys : CookieKeys}
  {c : JoinCookie}

/-- A cookie that opens is good for the peer for which it was made, as long as it has not ended. -/
lemma checkedCookie_of_opened (hopened : JoinCookie.opened env.cipher keys cookie = .ok c)
    (hgood : now.unix ≤ c.endTime) :
    Admission.checkedCookie env.cipher keys now c.peer cookie = .ok c := by
  unfold Admission.checkedCookie
  rw [hopened]
  exact (if_neg (not_not.mpr rfl)).trans (if_neg (Int64.not_lt.mpr hgood))

/-- A join that succeeds was granted something, and its session took the peer. -/
lemma exists_of_joined {x : Roster} {tag : UInt64}
    (h : x.outcome env now tag caller source .joinSession cookie = .ok ()) :
    ∃ g n, (x.grant env now tag source cookie).2 = .ok g ∧
      ((x.grant env now tag source cookie).1.bind now.instant caller source g).2 = .ok n := by
  unfold Roster.outcome at h
  dsimp only at h
  split at h
  · contradiction
  rename_i g hg
  cases hbind : ((x.grant env now tag source cookie).1.bind now.instant caller source g).2 with
  | error e =>
      rw [hbind] at h
      contradiction
  | ok n => exact ⟨g, n, hg, hbind⟩

lemma roster_obeyJoin_of_bind (h : (r.grant env now source cookie).2 = .ok g)
    (hbind : ((r.grant env now source cookie).1.roster.bind now.instant caller source g).2 =
      .ok n) :
    (r.obeyJoin env now caller source cookie).1.roster =
      ((r.grant env now source cookie).1.roster.bind now.instant caller source g).1.forceListing
        n := by
  simp only [obeyJoin, h, hbind]
  exact congrArg (·.forceListing n) keeps_sendCommand.roster

/-- **A join that comes again changes nothing.**  The relay `r` may have any roster that is reached,
and `s` has the one that the join left; when the same join comes there it succeeds, and sessions,
bindings, purses, accounts, bans, bitmaps and gauges are what they were. -/
theorem join_again (h : Reachable env q) (hr : r.roster = q.roster)
    (hkeys : env.settings.cookieKeys = some keys)
    (hopened : JoinCookie.opened env.cipher keys cookie = .ok c)
    (hjoined : r.roster.outcome env now (env.tag r.tagsDrawn) caller source .joinSession cookie =
      .ok ())
    (hs : s.roster = (r.obeyJoin env now caller source cookie).1.roster)
    (hgood : later.unix ≤ c.endTime) :
    s.roster.outcome env later (env.tag s.tagsDrawn) caller source .joinSession cookie = .ok () ∧
      ∃ forced, (s.obeyJoin env later caller source cookie).1.roster =
        { s.roster with forced } := by
  obtain ⟨acts, hacts⟩ := h.exists_run
  obtain ⟨g, n, hg, hbind⟩ := exists_of_joined hjoined
  have hleft : s.roster = ((r.roster.grant env now (env.tag r.tagsDrawn) source cookie).1.bind
      now.instant caller source g).1.forceListing n :=
    hs.trans (roster_obeyJoin_of_bind hg hbind)
  obtain ⟨c', hc, -⟩ := (granted_grant hg).shown keys hkeys
  obtain ⟨hopened', rfl, -⟩ := opened_of_checkedCookie hc
  obtain rfl := Except.ok.inj (hopened'.symm.trans hopened)
  have hlater := checkedCookie_of_opened hopened hgood
  rw [hr, hacts] at hg hbind hleft
  obtain ⟨hgrant, hagain⟩ :=
    Roster.join_again_of_run env acts (env.tag s.tagsDrawn) hkeys hc hlater hg hbind
  rw [← hleft] at hgrant hagain
  have hshown : (s.grant env later c'.peer cookie).2 = .ok g := congrArg Prod.snd hgrant
  have hsame : (s.grant env later c'.peer cookie).1.roster = s.roster := congrArg Prod.fst hgrant
  have hsecond :
      (s.obeyJoin env later caller c'.peer cookie).1.roster = s.roster.forceListing n := by
    rw [roster_obeyJoin_of_bind hshown (by rw [hsame, hagain]), hsame, hagain]
  refine ⟨?_, ?_⟩
  · simp only [Roster.outcome, hgrant, hagain]
    rfl
  · rw [hsecond]
    exact s.roster.exists_forced n

/-- The first peer joins again through another connection, which takes it over, and then once more
through that. -/
theorem join_again_taken_over :
    let cookie := firstCookie.sealed Roster.zeroKeyServer.cipher default default
    let first := start.run Roster.zeroKeyServer [firstJoin]
    let second := (first.obeyJoin Roster.zeroKeyServer firstJoin.1 1 ⟨1⟩ cookie).1
    first.roster.binding? 0 ⟨1⟩ ≠ none ∧ second.roster.binding? 0 ⟨1⟩ = none ∧
      second.roster.outcome Roster.zeroKeyServer firstJoin.1 0 1 ⟨1⟩ .joinSession cookie =
        .ok () ∧
      ∃ forced, (second.obeyJoin Roster.zeroKeyServer firstJoin.1 1 ⟨1⟩ cookie).1.roster =
        { second.roster with forced } := by
  intro cookie first second
  have hopened : JoinCookie.opened Roster.zeroKeyServer.cipher ⟨default, []⟩ cookie =
      .ok firstCookie := by
    decide +kernel
  have hjoined : first.roster.outcome Roster.zeroKeyServer firstJoin.1 0 1 ⟨1⟩ .joinSession
      cookie = .ok () := by
    decide +kernel
  have hsecond : second = (first.obeyJoin Roster.zeroKeyServer firstJoin.1 1 ⟨1⟩ cookie).1 := rfl
  have hgood : firstJoin.1.unix ≤ firstCookie.endTime := by decide +kernel
  have hagain := join_again (Reachable.start.run [firstJoin]) rfl rfl hopened hjoined
    (congrArg Relay.roster hsecond) hgood
  exact ⟨by decide +kernel, by decide +kernel, hagain⟩

end Relay

end MeteredRelay
