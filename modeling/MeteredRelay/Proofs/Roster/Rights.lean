import MeteredRelay.Proofs.Roster.Placement

/-!
# The rights that a bind leaves

A grant says whether its peer is an admin, and a binding is made from a grant.  A peer that comes
new or through another connection gets a new binding, with the rights of the grant it comes with.
A peer that is bound through the same connection keeps the binding it has, and with it the rights of
an earlier grant (`rightsAfter`).  What the new grant says about them is lost then, whether it takes
rights away or gives them.

**`bind_rights`** says what a bind leaves, and that it is what the grant says if and only if no
binding is kept that has other rights.  `demoted_peer_stays_admin` is a bind that keeps one.
-/

namespace MeteredRelay

namespace Roster

variable {r r' : Roster} {n : SessionNo} {peer : PeerId} {link : LinkNo} {g : Grant} {now : Instant}

/-- The rights of a peer after a bind that succeeds: those it has if it is bound through the same
connection, and those of the grant otherwise. -/
def rightsAfter (r : Roster) (n : SessionNo) (link : LinkNo) (peer : PeerId) (g : Grant) : Bool :=
  match (r.session n).find? peer with
  | none => g.isAdmin
  | some old => if old.link = link then old.isAdmin else g.isAdmin

lemma rightsAfter_eq_iff : r.rightsAfter n link peer g = g.isAdmin ↔
    ∀ old, (r.session n).find? peer = some old → old.link = link → old.isAdmin = g.isAdmin := by
  unfold rightsAfter
  cases (r.session n).find? peer with
  | none => simp
  | some old =>
      by_cases hl : old.link = link
      · simp [hl]
      · simp [hl]

/-- Each kind of bind leaves a binding with these rights. -/
lemma Binds.rights (hr : r.Sound) (hr' : Binds r now link peer g r' (.ok n)) :
    ∃ b, r'.binding? link peer = some b ∧ b.isAdmin = r.rightsAfter n link peer g := by
  cases hr' with
  | refreshed hn hban hb hs hl =>
      rename_i old
      have hknown := hr.binding?_of_find? hb
      rw [hl] at hknown
      refine ⟨old, hknown, ?_⟩
      rw [rightsAfter, hb]
      exact (if_pos hl).symm
  | takenOver hn hban hb hs hl =>
      rename_i old
      refine ⟨old.movedTo link g.isAdmin r.purses.size, ?_, ?_⟩
      · exact get?_joined_takeOver.trans (if_pos (by rw [← Session.peer_of_find? hb]; rfl))
      · rw [rightsAfter, hb]
        exact (if_neg hl).symm
  | welcomed hx hban hp =>
      rename_i x
      have hnew : (r.session n).find? peer = none := by
        rwa [Session.find?_eq_none_iff, Session.peers, ← bindings_openSession hr hx]
      refine ⟨⟨peer, n, link, g.size.toNat, g.isAdmin, x.purses.size⟩, ?_, ?_⟩
      · exact get?_joined_bindNew.trans (if_pos rfl)
      · rw [rightsAfter, hnew]

/-- **A bind that succeeds leaves its peer the rights of the grant, unless the peer was bound
through the same connection before: then it has the rights that it had.**  So the rights are those of
the grant if and only if there was no such binding with others. -/
theorem bind_rights (env : Environment) (acts : List (Moment × Act)) (now : Instant)
    (link : LinkNo) (peer : PeerId) (g : Grant) (n : SessionNo)
    (hok : ((empty.run env acts).bind now link peer g).2 = .ok n) :
    let r := empty.run env acts
    let r' := (r.bind now link peer g).1
    r'.lookup? g.session = some n ∧
      ∃ b, (r'.session n).find? peer = some b ∧ b.link = link ∧
        b.isAdmin = r.rightsAfter n link peer g ∧
        (b.isAdmin = g.isAdmin ↔ ∀ old, (r.session n).find? peer = some old → old.link = link →
          old.isAdmin = g.isAdmin) := by
  intro r r'
  have hr : r.Sound := sound_run env acts
  have hbinds : Binds r now link peer g r' (.ok n) := hok ▸ binds_bind hr now link peer g
  obtain ⟨b, hplaces⟩ := hbinds.places hr
  obtain ⟨b', hknown, hrights⟩ := hbinds.rights hr
  obtain rfl : b = b' := Option.some.inj (hplaces.known.symm.trans hknown)
  obtain ⟨hmem, rfl⟩ := hplaces.mem
  refine ⟨hplaces.found, b, ((hbinds.sound hr).tidy n).find?_eq hmem, hplaces.through, hrights, ?_⟩
  rw [hrights, rightsAfter_eq_iff]

/-- The first peer is bound as an admin through the first connection. -/
def adminRun : List (Moment × Act) :=
  [(noon, .redeem 7 1000 1700000000), (noon, .bind 0 ⟨1⟩ (openGrantOf ⟨1⟩ 0))]

/-- A grant of the session of the first peer, without rights. -/
def plainGrant : Grant := { openGrantOf ⟨1⟩ 0 with isAdmin := false }

/-- Through another connection the peer is an admin no more. -/
theorem bind_rights_taken_over :
    let r' := ((empty.run zeroKeyServer adminRun).bind 0 1 ⟨1⟩ plainGrant).1
    ∃ b, (r'.session 0).find? ⟨1⟩ = some b ∧ b.link = 1 ∧ b.isAdmin = false := by
  intro r'
  obtain ⟨-, b, hb, hl, hrights, -⟩ :=
    bind_rights zeroKeyServer adminRun 0 1 ⟨1⟩ plainGrant 0 (by decide +kernel)
  exact ⟨b, hb, hl, hrights.trans (by decide +kernel)⟩

/-- Through the same connection it is one still. -/
theorem demoted_peer_stays_admin :
    let r := empty.run zeroKeyServer adminRun
    (r.bind 0 0 ⟨1⟩ plainGrant).2 = .ok 0 ∧ plainGrant.isAdmin = false ∧
      ((r.bind 0 0 ⟨1⟩ plainGrant).1.session 0).find? ⟨1⟩ = some ⟨⟨1⟩, 0, 0, 4, true, 0⟩ := by
  decide +kernel

end Roster

end MeteredRelay
