import MeteredRelay.Proofs.Relay.Conduct
import MeteredRelay.Proofs.Relay.Orderly
import MeteredRelay.Proofs.Relay.Reading
import MeteredRelay.Proofs.Relay.Reachable
import MeteredRelay.Proofs.Roster.Books

/-!
# A client answers for itself

Nobody can have another connection dropped or silenced, or spend what another has paid: a datagram
from an address is held against the connection of this address only, and charged only to accounts in
the purses of bindings that this connection has.

The first is what `Conduct` says of every datagram.  For the second, commands charge nothing, and a
message is passed on for a binding of its connection, to whose purse the one charge goes
(`Settles.get?_accounts`).

Misdeeds are counted in a word that wraps.  An event adds at most one to it, so it shows the true
number, and never falls, for as many events as it can count (**`banScore_le_length`**).
**`client_answers_for_itself`** puts all this together.
-/

namespace MeteredRelay

namespace Relay

variable {env : Environment} {now : Moment} {r r' : Relay} {n m : LinkNo} {k : UInt64}
  {address : SocketAddress} {datagram : Bytes} {p : PacketBuffer} {q q' : Roster}
  {i : AccountNo} {account : Account}

/-! ## Accounts -/

/-- Acts that charge nothing leave the accounts as they are. -/
lemma account_of_bids (hp : Roster.Performs env now (Bids env now n p) q q') (hq : q.Sound)
    (hi : q.ledger.accounts.get? i = some account) : q'.ledger.accounts.get? i = some account := by
  refine (hp.keeps (P := fun q => q.Sound ∧ q.ledger.accounts.get? i = some account) ?_ ⟨hq, hi⟩).2
  rintro q act ⟨-, hfree⟩ ⟨hsound, hi⟩
  exact ⟨Roster.sound_act now act hsound,
    (Roster.books_act hsound env now act).get?_accounts hfree hi⟩

/-- An account that a message changes is in the purse of the binding that it is passed on for. -/
lemma Settles.get?_accounts (hs : Settles env now n p q q') (hq : q.Sound)
    (hi : q.ledger.accounts.get? i = some account) :
    q'.ledger.accounts.get? i = some account ∨
      ∃ b, q.binding? n p.source = some b ∧ i ∈ q.purses.accounts b.purse := by
  cases hs with
  | idle => exact .inl hi
  | obeyed _ hacts => exact .inl (account_of_bids hacts hq hi)
  | charged hb =>
      rename_i b amount
      by_cases hmem : i ∈ q.purses.accounts b.purse
      · exact .inr ⟨b, hb, hmem⟩
      · exact .inl ((Accounts.get?_pay_of_notMem hmem _ _).trans hi)

/-- A message is brought from the connection of its address, or from one that has just been made and
has no bindings. -/
lemma Orderly.addressed_of_brings (h : r.Orderly)
    (hbrings : Brings env now r (.datagram address datagram) n p) {peer : PeerId} {b : Binding}
    (hb : r.roster.binding? n peer = some b) : r.addresses.get? address = some n := by
  cases hbrings with
  | intro harrive hopen =>
      cases arrives_arrive harrive with
      | known hn _ hfrom =>
          rw [hfrom _ rfl]
          exact hn
      | new =>
          have hlt : r.links.size < r.links.size := h.roster.seated ⟨r.links.size, peer⟩ b hb
          exact absurd hlt (Nat.lt_irrefl _)

lemma Orderly.account_receive (h : r.Orderly) (hi : r.roster.ledger.accounts.get? i = some account) :
    (r.receive env now address datagram).roster.ledger.accounts.get? i = some account ∨
      ∃ n peer b, r.addresses.get? address = some n ∧ r.roster.binding? n peer = some b ∧
        i ∈ r.roster.purses.accounts b.purse := by
  rcases settles_receive env now r address datagram with hsame | ⟨n, p, hbrings, hsettles⟩
  · rw [hsame]
    exact .inl hi
  · refine (hsettles.get?_accounts h.roster.sound hi).imp_right ?_
    rintro ⟨b, hb, hmem⟩
    exact ⟨n, p.source, b, h.addressed_of_brings hbrings hb, hb, hmem⟩

/-! ## Misdeeds -/

lemma Spares.exists_banScore (h : Spares n k r r') (hk : k ≤ 1) (m : LinkNo) :
    ∃ j ≤ 1, (r'.link m).banScore = (r.link m).banScore + j := by
  by_cases hm : m = n
  · rw [hm]
    exact ⟨k, hk, h.score⟩
  · have hsame : (r'.link m).banScore = (r.link m).banScore :=
      congrArg Link.Conduct.banScore (h.others m hm)
    exact ⟨0, by decide, by rw [hsame, UInt64.add_zero]⟩

/-- An event adds at most one misdeed to any connection. -/
lemma Labelled.banScore_step (hr : r.Labelled) (env : Environment) (now : Moment) (e : Event)
    (m : LinkNo) :
    ∃ k ≤ 1, ((r.step env now e).link m).banScore = (r.link m).banScore + k := by
  by_cases he : ∃ address datagram, e = .datagram address datagram
  · rcases he with ⟨address, datagram, rfl⟩
    cases hn : r.addresses.get? address with
    | some n =>
        obtain ⟨k, hk, hspares⟩ := spares_receive_of_some env now datagram hn (hr.lt_size address n hn)
        exact hspares.exists_banScore hk m
    | none =>
        rcases spares_receive_of_none env now datagram hn with hlinks | ⟨k, hk, hspares⟩
        · refine ⟨0, by decide, ?_⟩
          rw [Relay.step, link_congr hlinks, UInt64.add_zero]
        · have hmade : ((r.foundLink address now.instant).link m).banScore = (r.link m).banScore :=
            congrArg Prod.snd (tally_enroll (l := .plain address now.instant) rfl m)
          rw [← hmade]
          exact hspares.exists_banScore hk m
  · refine ⟨0, by decide, ?_⟩
    rw [UInt64.add_zero]
    exact congrArg Prod.snd (tally_step (fun address datagram h => he ⟨address, datagram, h⟩) m)

/-- **A connection has no more misdeeds than events have passed.** -/
theorem banScore_le_length (env : Environment) (events : List (Moment × Event)) (m : LinkNo) :
    ((start.run env events).link m).banScore.toNat ≤ events.length := by
  induction events using List.reverseRecOn with
  | nil => exact Nat.le_refl _
  | append_singleton before last ih =>
      obtain ⟨k, hk, hscore⟩ := (labelled_run env before).banScore_step env last.1 last.2 m
      have hone : k.toNat ≤ 1 := UInt64.le_iff_toNat_le.mp hk
      have hlast : start.run env (before ++ [last]) = (start.run env before).step env last.1 last.2 :=
        run_append ..
      rw [hlast, hscore, UInt64.toNat_add, List.length_append, List.length_singleton]
      exact (Nat.mod_le _ _).trans (Nat.add_le_add ih hone)

/-- **A client answers for itself.**  After any run, let a datagram come from an address.  Every
connection of another address is judged as before: by its misdeeds, the times of its last datagram
and its last ping, and its window.  No connection, neither an old one nor one that the datagram
makes, has more than one misdeed more in the word that counts them, and this does not wrap as long
as there were fewer events than it can count.  And an account changes only if it is in the purse of
a binding that the connection of the address has. -/
theorem client_answers_for_itself (env : Environment) (events : List (Moment × Event))
    (now : Moment) (address : SocketAddress) (datagram : Bytes) :
    let r := start.run env events
    let r' := r.step env now (.datagram address datagram)
    (∀ m < r.links.size, (r.link m).address ≠ address →
      (r'.link m).conduct = (r.link m).conduct) ∧
    (∀ n, ∃ k ≤ 1, (r'.link n).banScore = (r.link n).banScore + k ∧
      (events.length + 1 < UInt64.size →
        (r'.link n).banScore.toNat = (r.link n).banScore.toNat + k.toNat)) ∧
    ∀ i account, r.roster.ledger.accounts.get? i = some account →
      r'.roster.ledger.accounts.get? i = some account ∨
        ∃ n peer b, r.addresses.get? address = some n ∧ r.roster.binding? n peer = some b ∧
          i ∈ r.roster.purses.accounts b.purse := by
  intro r r'
  have hlabelled : r.Labelled := labelled_run env events
  refine ⟨fun m hm haddress => ?_, fun n => ?_, fun i account hi => ?_⟩
  · cases hn : r.addresses.get? address with
    | some n =>
        obtain ⟨k, -, hspares⟩ := spares_receive_of_some env now datagram hn
          (hlabelled.lt_size address n hn)
        refine hspares.others m ?_
        rintro rfl
        exact haddress (hlabelled.address address m hn)
    | none =>
        rcases spares_receive_of_none env now datagram hn with
          hlinks | ⟨k, -, hspares⟩
        · exact congrArg Link.conduct (link_congr hlinks m)
        · have hold : (r.foundLink address now.instant).link m = r.link m :=
            (link_enroll ..).trans (if_neg (Nat.ne_of_lt hm))
          rw [← hold]
          exact hspares.others m (Nat.ne_of_lt hm)
  · obtain ⟨k, hk, hscore⟩ := hlabelled.banScore_step env now (.datagram address datagram) n
    refine ⟨k, hk, hscore, fun hfew => ?_⟩
    have hone : k.toNat ≤ 1 := UInt64.le_iff_toNat_le.mp hk
    have hle : (r.link n).banScore.toNat ≤ events.length := banScore_le_length env events n
    rw [hscore, UInt64.toNat_add]
    exact Nat.mod_eq_of_lt (by simp only [UInt64.size] at hfew; omega)
  · exact (Reachable.start.run events).orderly.account_receive hi

end Relay

end MeteredRelay
