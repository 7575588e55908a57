import MeteredRelay.Proofs.Ledger
import MeteredRelay.Proofs.Roster.Listing
import MeteredRelay.Proofs.Roster.Placement

/-!
# Binding again

A bind may bring a peer in, take it over from another connection, move it from another session, lift
a ban that has ended or leave an overdrawn account out.  Whatever it was, afterwards there is nothing
left that the same bind would have to do (`Holds`): the id stands for the session, the peer is bound
there through the connection and with the size, and its account may not come in once more, be it
that its payment is there or that it is overdrawn.

A bind that finds this takes the way of a refresh, and each step on that way leaves what it finds
(`Holds.bind_eq_self`).  There is no ban to lift, for a peer that is bound is under none; the set of
members has the peer, and the bitmap that is written anew is the one that was there, for it was
fresh.  So **`bind_again`**: a bind that is made again changes nothing.  The cookie behind it is
granted the same as before, because its payment is known (**`grant_again`**), and
**`join_again_of_run`** puts the two together.
-/

namespace MeteredRelay

lemma MemberSet.insert_of_contains {s : MemberSet} {p : PeerId} (h : s.contains p = true) :
    s.insert p = s := by
  refine MemberSet.eq_of_contains fun q => ?_
  rw [MemberSet.contains_insert, or_iff_right_iff_imp]
  rintro rfl
  exact h

namespace Session

variable {n : SessionNo} {s : Session} {p : PeerId}

/-- To note a member again writes the bitmap that is there. -/
lemma Fresh.noteMember_eq_self (hfresh : s.Fresh) (htidy : s.Tidy n) (hp : p ∈ s.peers) :
    s.noteMember p = s := by
  have hne : s.bindings ≠ [] := by
    obtain ⟨b, hb, -⟩ := mem_peers.mp hp
    exact List.ne_nil_of_mem hb
  have hwritten : s.written = s.writeMembers.written :=
    hfresh.resolve_right fun hnil => hne hnil.2
  rw [noteMember, MemberSet.insert_of_contains ((htidy.members p).mpr hp)]
  show { s with written := s.writeMembers.written } = s
  rw [← hwritten]

end Session

namespace Roster

variable {env : Environment} {r r' x : Roster} {n : SessionNo} {b : Binding} {peer : PeerId}
  {link : LinkNo} {g : Grant}

/-! ## Nothing left to do -/

/-- All that a bind would see to is as it would leave it. -/
structure Holds (r : Roster) (link : LinkNo) (peer : PeerId) (g : Grant) (n : SessionNo)
    (b : Binding) : Prop where
  entry : r.lookup? g.session = some n
  found : (r.session n).find? peer = some b
  through : b.link = link
  sized : b.size = g.size.toNat
  /-- The account would not come in. -/
  kept : KeptFrom r.ledger.accounts (r.accountsOf n peer) g.account

lemma attach_eq_self {purse : PurseNo} {account : AccountNo}
    (h : KeptFrom r.ledger.accounts (r.purses.accounts purse) account) :
    r.attach purse account = r := by
  have hpurses : r.purses.attach r.ledger.accounts purse account = r.purses := by
    refine Store.modify_eq_self fun ns hns => attach_of_keptFrom ?_
    rwa [Purses.accounts, hns] at h
  rw [attach, hpurses]

namespace Holds

lemma forceListing (h : Holds r link peer g n b) (m : SessionNo) :
    Holds (r.forceListing m) link peer g n b := by
  unfold Roster.forceListing
  split
  · exact ⟨h.entry, h.found, h.through, h.sized, h.kept⟩
  · exact h

/-- A bind that finds nothing to do leaves all as it is. -/
lemma bind_eq_self (h : Holds r link peer g n b) (hr : r.Sound) (hu : r.Unbanned)
    (hfresh : (r.session n).Fresh) (now : Instant) : r.bind now link peer g = (r, .ok n) := by
  -- a peer that is bound is under no ban, so none is lifted, whatever the time
  have hmem : peer ∈ (r.session n).peers := Session.mem_peers_of_find? h.found
  have hnone : (r.session n).bans.get? peer = none := hu n peer hmem
  have hfree : (r.session n).isBanned peer now = false := by rw [Session.isBanned, hnone]
  have hlift : r.changeSession n (·.liftBan peer now) = r :=
    changeSession_eq_self (liftBan_eq_self hnone)
  -- the bitmap is written anew from the same members
  have hnote : r.changeSession n (·.noteMember peer) = r :=
    changeSession_eq_self (hfresh.noteMember_eq_self (hr.tidy n) hmem)
  have hattach : r.attach b.purse g.account = r := by
    refine attach_eq_self ?_
    have hkept := h.kept
    rwa [accountsOf, h.found] at hkept
  have hsize : ¬ b.size ≠ g.size.toNat := not_not.mpr h.sized
  unfold bind
  simp only [openSession_of_some hr h.entry, hfree, hlift, h.found, Bool.false_eq_true, if_false]
  rw [if_neg hsize, if_pos h.through, hnote, hattach]

lemma bind_run {acts : List (Moment × Act)} (h : Holds (empty.run env acts) link peer g n b)
    (now : Instant) :
    (empty.run env acts).bind now link peer g = (empty.run env acts, .ok n) :=
  h.bind_eq_self (sound_run env acts) (unbanned_run env acts) (fresh_run env acts n) now

end Holds

/-! ## After a bind -/

lemma Places.holds (h : Places r r' link peer g n b) (hr' : r'.Sound)
    (hfunds : Funds r r' peer g n b) : Holds r' link peer g n b := by
  obtain ⟨hmem, hpeer⟩ := h.mem
  constructor
  case entry => exact h.found
  case found => exact hpeer ▸ (hr'.tidy n).find?_eq hmem
  case through => exact h.through
  case sized => exact h.sized
  case kept =>
    -- an account that came in may not come in again, and neither may one that was kept out
    rw [hfunds.ledger]
    by_cases hkept : KeptFrom r.ledger.accounts (r.accountsOf n peer) g.account
    · rwa [hfunds.kept hkept]
    · rw [hfunds.added hkept]
      exact .inr ⟨g.account, by simp, rfl⟩

/-- A bind that succeeds leaves nothing to do, and the ledger as it was. -/
lemma holds_bind (env : Environment) (acts : List (Moment × Act)) (now : Instant)
    (hok : ((empty.run env acts).bind now link peer g).2 = .ok n) :
    ∃ b, Holds ((empty.run env acts).bind now link peer g).1 link peer g n b ∧
      ((empty.run env acts).bind now link peer g).1.ledger = (empty.run env acts).ledger := by
  have hr : (empty.run env acts).Sound := sound_run env acts
  have hown : (empty.run env acts).OwnPurses := ownPurses_run env acts
  have hbinds := binds_bind hr now link peer g
  rw [hok] at hbinds
  obtain ⟨b, hplaces⟩ := hbinds.places hr
  have hfunds := hplaces.funds hr hown (hown.act hr env ⟨now, 0⟩ (.bind link peer g)) hbinds
  exact ⟨b, hplaces.holds (hbinds.sound hr) hfunds, hfunds.ledger⟩

/-- **A bind that is made again changes nothing**, whenever that is.  Its listing may have been asked
for in between. -/
theorem bind_again (env : Environment) (acts : List (Moment × Act)) (now : Moment)
    (later : Instant) (link : LinkNo) (peer : PeerId) (g : Grant) (n : SessionNo)
    (hok : ((empty.run env acts).bind now.instant link peer g).2 = .ok n) :
    let r' := ((empty.run env acts).bind now.instant link peer g).1.forceListing n
    r'.bind later link peer g = (r', .ok n) := by
  intro r'
  have hreached :
      r' = empty.run env (acts ++ [(now, .bind link peer g), (now, .forceListing n)]) := by
    rw [run_append]
    rfl
  obtain ⟨b, hholds, -⟩ := holds_bind env acts now.instant hok
  have hforced : Holds r' link peer g n b := hholds.forceListing n
  rw [hreached] at hforced ⊢
  exact hforced.bind_run later

/-! ## Showing a cookie again -/

variable {keys : CookieKeys} {now later : Moment} {tag draw : UInt64} {cookie : Bytes}
  {c : JoinCookie}

lemma grant_of_checkedCookie (hkeys : env.settings.cookieKeys = some keys)
    (hc : Admission.checkedCookie env.cipher keys now peer cookie = .ok c) :
    r.grant env now tag peer cookie =
      ({ r with ledger := (Admission.cookieGrant env r.ledger c).1 },
        .ok (Admission.cookieGrant env r.ledger c).2) := by
  simp only [grant, hkeys, hc]

/-- The payment of a cookie is known once it was redeemed. -/
lemma cookieGrant_again (env : Environment) (l : Ledger) (c : JoinCookie) :
    Admission.cookieGrant env (Admission.cookieGrant env l c).1 c =
      Admission.cookieGrant env l c := by
  have hknown := l.get?_payments_redeem c.paymentTag c.allowance c.endTime
  unfold Admission.cookieGrant
  dsimp only
  rw [Ledger.redeem_of_some hknown]

/-- **A cookie that is shown again is granted the same**, and redeems nothing. -/
theorem grant_again (hkeys : env.settings.cookieKeys = some keys)
    (hc : Admission.checkedCookie env.cipher keys now peer cookie = .ok c)
    (hlater : Admission.checkedCookie env.cipher keys later peer cookie = .ok c)
    (hx : x.ledger = (r.grant env now tag peer cookie).1.ledger) :
    x.grant env later draw peer cookie = (x, (r.grant env now tag peer cookie).2) := by
  rw [grant_of_checkedCookie hkeys hc] at hx ⊢
  have hledger : x.ledger = (Admission.cookieGrant env r.ledger c).1 := hx
  rw [grant_of_checkedCookie hkeys hlater, hledger, cookieGrant_again, ← hledger]

lemma exists_run_grant (env : Environment) (acts : List (Moment × Act)) (now : Moment)
    (tag : UInt64) (peer : PeerId) (cookie : Bytes) :
    ∃ acts', ((empty.run env acts).grant env now tag peer cookie).1 = empty.run env acts' := by
  rcases grant_eq_act env now tag (empty.run env acts) peer cookie with
    hsame | ⟨tag', allowance, endTime, hredeemed⟩
  · exact ⟨acts, hsame⟩
  · refine ⟨acts ++ [(now, .redeem tag' allowance endTime)], ?_⟩
    rw [hredeemed, run_append]
    rfl

/-- **What a grant and its bind leave, the same grant and bind leave as it is.** -/
theorem join_again_of_run (env : Environment) (acts : List (Moment × Act)) (draw : UInt64)
    (hkeys : env.settings.cookieKeys = some keys)
    (hc : Admission.checkedCookie env.cipher keys now peer cookie = .ok c)
    (hlater : Admission.checkedCookie env.cipher keys later peer cookie = .ok c)
    (hg : ((empty.run env acts).grant env now tag peer cookie).2 = .ok g)
    (hok : (((empty.run env acts).grant env now tag peer cookie).1.bind now.instant link peer
      g).2 = .ok n) :
    let x := (((empty.run env acts).grant env now tag peer cookie).1.bind now.instant link peer
      g).1.forceListing n
    x.grant env later draw peer cookie = (x, .ok g) ∧
      x.bind later.instant link peer g = (x, .ok n) := by
  intro x
  obtain ⟨acts', hgranted⟩ := exists_run_grant env acts now tag peer cookie
  have hledger : x.ledger = ((empty.run env acts).grant env now tag peer cookie).1.ledger := by
    refine (congrArg Till.ledger till_forceListing).trans ?_
    show (Roster.bind _ now.instant link peer g).1.ledger = _
    rw [hgranted] at hok ⊢
    obtain ⟨-, -, hledger⟩ := holds_bind env acts' now.instant hok
    exact hledger
  refine ⟨?_, ?_⟩
  · rw [← hg]
    exact grant_again hkeys hc hlater hledger
  · have hagain := bind_again env acts' now later.instant link peer g n (hgranted ▸ hok)
    rwa [← hgranted] at hagain

end Roster

end MeteredRelay
