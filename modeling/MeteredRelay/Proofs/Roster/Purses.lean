import MeteredRelay.Proofs.Roster.Orderly

/-!
# Every binding has a purse of its own

A bind charges nothing, and it puts its account into one purse.  That this is the purse of one
binding only needs an argument: a binding keeps the number of its purse for ever, purses are never
given back, and a peer that is taken over gets a copy of a purse.  But each new binding takes the
number that the next purse will have, so no two bindings have one purse (**`ownPurses_run`**), and
what goes into the purse of a binding is no business of any other.
-/

namespace MeteredRelay

/-! ## Purses are never given back -/

lemma Till.size_purses_act (t : Till) (a : Till.Act) : t.purses.size ≤ (t.act a).purses.size := by
  cases a with
  | redeem | redeemRotation | sweep => exact Nat.le_refl _
  | start | copy => exact (Nat.le_succ _).trans_eq (Store.size_add ..).symm
  | attach | charge => exact Nat.le_of_eq (Store.size_modify ..).symm

lemma Till.size_purses_run (t : Till) (acts : List Till.Act) :
    t.purses.size ≤ (t.run acts).purses.size := by
  induction acts generalizing t with
  | nil => exact Nat.le_refl _
  | cons a acts ih => exact (t.size_purses_act a).trans (ih (t.act a))

namespace Roster

variable {env : Environment} {r r' : Roster} {n : SessionNo} {b : Binding} {peer : PeerId}
  {link : LinkNo} {g : Grant} {now : Instant} {seat : Seat}

lemma size_purses_act (hr : r.Sound) (env : Environment) (now : Moment) (a : Act) :
    r.purses.size ≤ (r.act env now a).purses.size := by
  have hfits {links : LinkNo} (h : a.Fits links) :
      r.till.purses.size ≤ (r.act env now a).till.purses.size := by
    obtain ⟨acts, -, htill⟩ := till_act hr env now h
    rw [htill]
    exact r.till.size_purses_run acts
  cases a with
  | bind link peer g => exact hfits (Nat.lt_succ_self link)
  | charge purse amount => exact r.till.size_purses_act (.charge purse amount)
  | _ => exact @hfits 0 trivial

/-! ## What a bind puts where -/

/-- The accounts that the messages of a peer in a session are charged to. -/
def accountsOf (r : Roster) (n : SessionNo) (peer : PeerId) : List AccountNo :=
  match (r.session n).find? peer with
  | none => []
  | some b => r.purses.accounts b.purse

/-- The purses after a bind: an account goes into the purse of a binding that there was, or into a
new one, which holds what the peer had in the session. -/
inductive Fills (r : Roster) (n : SessionNo) (link : LinkNo) (peer : PeerId) (account : AccountNo) :
    Binding → Purses → Prop where
  | known {b : Binding} (hb : (r.session n).find? peer = some b) (hl : b.link = link) :
      Fills r n link peer account b (r.purses.attach r.ledger.accounts b.purse account)
  | started {b : Binding} (hnew : b.purse = r.purses.size) :
      Fills r n link peer account b
        (Purses.attach (r.purses.add (r.accountsOf n peer)) r.ledger.accounts r.purses.size account)

namespace Fills

variable {account : AccountNo} {purses : Purses} {a : Binding}

/-- The purse of the binding holds what the peer's held, and the account if that may come in. -/
lemma accounts_self (h : Fills r n link peer account b purses)
    (hlt : ∀ old, (r.session n).find? peer = some old → old.purse < r.purses.size) :
    purses.accounts b.purse = r.ledger.accounts.attach (r.accountsOf n peer) account := by
  cases h with
  | known hb hl => rw [Purses.attach, Purses.accounts_modify, if_pos ⟨rfl, hlt b hb⟩, accountsOf, hb]
  | started hnew =>
      rw [hnew, Purses.attach, Purses.accounts_modify, Store.size_add,
        if_pos ⟨rfl, Nat.lt_succ_self _⟩, Purses.accounts_add, if_pos rfl]

/-- No other purse has changed. -/
lemma accounts_of_ne (h : Fills r n link peer account b purses) (ha : a.purse ≠ b.purse) :
    purses.accounts a.purse = r.purses.accounts a.purse := by
  cases h with
  | known hb hl => rw [Purses.attach, Purses.accounts_modify, if_neg fun h => ha h.1.symm]
  | started hnew =>
      rw [hnew] at ha
      rw [Purses.attach, Purses.accounts_modify, if_neg fun h => ha h.1.symm, Purses.accounts_add,
        if_neg ha]

end Fills

/-- A new purse is filled where the ledger stayed and the purse holds what the peer had. -/
lemma fills_of_till {x : Roster} (link : LinkNo) (account : AccountNo)
    (hx : x.till = ⟨r.ledger, r.purses.add (r.accountsOf n peer)⟩) (hnew : b.purse = r.purses.size) :
    (x.attach r.purses.size account).ledger = r.ledger ∧
      Fills r n link peer account b (x.attach r.purses.size account).purses := by
  have hledger : x.ledger = r.ledger := congrArg Till.ledger hx
  have hpurses : x.purses = r.purses.add (r.accountsOf n peer) := congrArg Till.purses hx
  refine ⟨hledger, ?_⟩
  rw [attach, hpurses, hledger]
  exact .started hnew

/-- What a bind that succeeds does to the purses, and that it does nothing to the ledger. -/
lemma Binds.fills (hr : r.Sound) (hr' : Binds r now link peer g r' (.ok n)) :
    r'.ledger = r.ledger ∧
      ∃ b, r'.joined.get? ⟨link, peer⟩ = some b ∧ Fills r n link peer g.account b r'.purses := by
  cases hr' with
  | refreshed hn hban hb hs hl =>
      rename_i old
      have hknown := hr.binding?_of_find? hb
      rw [hl] at hknown
      exact ⟨rfl, old, hknown, .known hb hl⟩
  | takenOver hn hban hb hs hl =>
      rename_i old
      have haccounts : r.accountsOf n peer = r.purses.accounts old.purse := by
        rw [accountsOf, hb]
      have htill := @till_takeOver
        { r.changeSession n (·.liftBan peer now) with purses := r.purses.copy old.purse }
        (old.movedTo link g.isAdmin r.purses.size) old
      obtain ⟨hledger, hfills⟩ := fills_of_till link g.account
        (b := old.movedTo link g.isAdmin r.purses.size) (htill.trans (by rw [haccounts]; rfl)) rfl
      refine ⟨hledger, _, ?_, hfills⟩
      exact get?_joined_takeOver.trans (if_pos (by rw [← Session.peer_of_find? hb]; rfl))
  | welcomed hx hban hp =>
      rename_i x
      have hopened := till_openSession hr hx
      have hsize : x.purses.size = r.purses.size := congrArg (·.purses.size) hopened
      have hnone : r.accountsOf n peer = [] := by
        rw [Session.peers, bindings_openSession hr hx, ← Session.peers,
          ← Session.find?_eq_none_iff] at hp
        rw [accountsOf, hp]
      have htill := till_bindNew (b := ⟨peer, n, link, g.size.toNat, g.isAdmin, x.purses.size⟩)
        (r := { x.changeSession n (·.liftBan peer now) with purses := x.purses.start })
      have hstarted : Roster.till { x.changeSession n (·.liftBan peer now) with
          purses := x.purses.start } = ⟨r.ledger, r.purses.add (r.accountsOf n peer)⟩ := by
        rw [hnone]
        exact congrArg (fun t : Till => (⟨t.ledger, t.purses.add []⟩ : Till)) hopened
      rw [hsize] at htill ⊢
      obtain ⟨hledger, hfills⟩ := fills_of_till link g.account
        (b := ⟨peer, n, link, g.size.toNat, g.isAdmin, r.purses.size⟩)
        (htill.trans hstarted) rfl
      exact ⟨hledger, _, get?_joined_bindNew.trans (if_pos rfl), hfills⟩

/-! ## New bindings take new purses -/

/-- The bindings that connections know have purses that there are, and no two have the same. -/
structure OwnPurses (r : Roster) : Prop where
  lt_size : ∀ seat b, r.joined.get? seat = some b → b.purse < r.purses.size
  eq_of_purse_eq : ∀ seat seat' a b, r.joined.get? seat = some a → r.joined.get? seat' = some b →
    a.purse = b.purse → a = b

/-- A binding that a connection knows after a bind was known before, or it is the peer's and has a
new purse. -/
lemma Binds.purse {outcome : Except RelayFault SessionNo} (hr : r.Sound)
    (hr' : Binds r now link peer g r' outcome) (hb : r'.joined.get? seat = some b) :
    (∃ seat', r.joined.get? seat' = some b) ∨
      seat = ⟨link, peer⟩ ∧ b.purse = r.purses.size ∧ r.purses.size < r'.purses.size := by
  by_cases hseat : seat = ⟨link, peer⟩
  · cases outcome with
    | error e => cases hr' <;> exact .inl ⟨seat, hb⟩
    | ok n =>
        obtain ⟨-, b', hknown, hfills⟩ := hr'.fills hr
        rw [hseat, hknown] at hb
        obtain rfl := Option.some.inj hb
        generalize r'.purses = purses at hfills
        cases hfills with
        | known hold hl => exact .inl ⟨_, hr.joined_of_mem (Session.mem_of_find? hold)⟩
        | started hnew =>
            refine .inr ⟨hseat, hnew, ?_⟩
            rw [Purses.attach, Store.size_modify, Store.size_add]
            exact Nat.lt_succ_self _
  · exact .inl ⟨seat, hr'.joined_of_ne hr hseat hb⟩

lemma purse_act (hr : r.Sound) (env : Environment) (now : Moment) (a : Act) :
    ∃ new : Seat, ∀ seat b, (r.act env now a).joined.get? seat = some b →
      (∃ seat', r.joined.get? seat' = some b) ∨
        seat = new ∧ b.purse = r.purses.size ∧ r.purses.size < (r.act env now a).purses.size := by
  have hknown (hbind : ∀ link peer g, a ≠ .bind link peer g) (seat : Seat) (b : Binding)
      (hb : (r.act env now a).joined.get? seat = some b) : r.joined.get? b.seat = some b := by
    have hseat := ((sound_act now a hr).joined_iff.mp hb).2
    rcases joined_act hr (hseat ▸ hb) with hb | ⟨g, ha, -⟩
    · exact hb
    · exact absurd ha (hbind _ _ _)
  cases a with
  | bind link peer g =>
      exact ⟨⟨link, peer⟩, fun seat b hb => (binds_bind hr now.instant link peer g).purse hr hb⟩
  | _ => exact ⟨default, fun seat b hb => .inl ⟨b.seat, hknown nofun seat b hb⟩⟩

/-- Every act keeps purses apart. -/
lemma OwnPurses.act (h : r.OwnPurses) (hr : r.Sound) (env : Environment) (now : Moment) (a : Act) :
    (r.act env now a).OwnPurses := by
  have hsize := size_purses_act hr env now a
  obtain ⟨new, hpurse⟩ := purse_act hr env now a
  refine ⟨?_, ?_⟩
  · intro seat b hb
    rcases hpurse seat b hb with ⟨seat', hold⟩ | ⟨-, hnew, hlt⟩
    · exact Nat.lt_of_lt_of_le (h.lt_size seat' b hold) hsize
    · rwa [hnew]
  · intro seat seat' b c hb hc hbc
    rcases hpurse seat b hb with ⟨_, hb'⟩ | ⟨hseat, hbnew, -⟩ <;>
      rcases hpurse seat' c hc with ⟨_, hc'⟩ | ⟨hseat', hcnew, -⟩
    · exact h.eq_of_purse_eq _ _ b c hb' hc' hbc
    · exact absurd (hbc.trans hcnew) (Nat.ne_of_lt (h.lt_size _ b hb'))
    · exact absurd (hbc.symm.trans hbnew) (Nat.ne_of_lt (h.lt_size _ c hc'))
    · rw [hseat] at hb
      rw [hseat', hb] at hc
      exact Option.some.inj hc

/-- **No two bindings of a reachable roster have one purse.** -/
theorem ownPurses_run (env : Environment) (acts : List (Moment × Act)) :
    (empty.run env acts).OwnPurses := by
  have hrun : (empty.run env acts).Sound ∧ (empty.run env acts).OwnPurses := by
    refine run_induction (P := fun r => r.Sound ∧ r.OwnPurses) ?_
      ⟨sound_empty, nofun, nofun⟩ acts
    rintro r now a ⟨hr, h⟩
    exact ⟨sound_act now a hr, h.act hr env now a⟩
  exact hrun.2

end Roster

end MeteredRelay
