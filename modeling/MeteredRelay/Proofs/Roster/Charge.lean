import MeteredRelay.Proofs.Roster.Orderly

/-!
# What a binding pays

The purse of a binding is charged if its accounts allow the amount together, and else the roster
stays as it is (`charge_of_lt`).  A charge that is allowed is drawn from the accounts in their order:
those in front are used up and leave the purse, and one stops it by paying the rest
(`stopsAt_of_drawn`).  An account may be overdrawn by others; it then allows nothing, and its debt is
not paid.

**`pays_charge`** says what such a charge does to the whole: what the purse allows, and what all
accounts allow, goes down by the amount, and nothing changes that is not an account in the purse or
the purse itself.  **`charge_takes_in_order`** says where it stops.
-/

namespace MeteredRelay

namespace Accounts

variable {before after : Accounts} {ns spent rest : List AccountNo} {n : AccountNo}
  {amount : Int64}

lemma allowance_append :
    before.allowance (ns ++ rest) = before.allowance ns + before.allowance rest := by
  simp [allowance]

/-- What a list allows goes down by what is taken from it. -/
lemma Drawn.allowance (h : Drawn before ns amount after spent n rest) (hns : ns.Nodup) :
    (after.allowance (n :: rest) : Int) + amount.toInt = before.allowance ns := by
  rw [h.split] at hns ⊢
  rcases List.nodup_append.mp hns with ⟨-, hcons, hdisjoint⟩
  have hrest : after.allowance rest = before.allowance rest := allowance_congr fun m hm => by
    refine h.others m (fun hs => hdisjoint m hs m (List.mem_cons_of_mem _ hm) rfl) ?_
    rintro rfl
    exact (List.nodup_cons.mp hcons).1 hm
  have hlast := h.last
  have hshort := h.short
  have hcovers := h.covers
  rw [allowance_cons, allowance_append, allowance_cons, hrest, credit, credit]
  omega

/-- The first accounts of a list allow no more than the first few more. -/
lemma allowance_take_le {j k : Nat} (h : j ≤ k) :
    before.allowance (ns.take j) ≤ before.allowance (ns.take k) := by
  rw [← Nat.add_sub_cancel' h, List.take_add, allowance_append]
  exact Nat.le_add_right ..

/-- The first place in a list at which the accounts up to there allow an amount. -/
structure CoveredAt (accounts : Accounts) (ns : List AccountNo) (amount : Int) (k : Nat) :
    Prop where
  lt_length : k < ns.length
  covers : amount ≤ accounts.allowance (ns.take (k + 1))
  /-- Up to any place in front, they allow too little. -/
  first : ∀ j < k, accounts.allowance (ns.take (j + 1)) < amount

/-- What was drawn, was drawn up to the first place that covers it. -/
lemma Drawn.coveredAt (h : Drawn before ns amount after spent n rest) :
    CoveredAt before ns amount.toInt spent.length := by
  have hupTo : ns.take (spent.length + 1) = spent ++ [n] := by
    rw [h.split, List.take_length_add_append, List.take_one, List.head?_cons, Option.toList_some]
  have hspent : ns.take spent.length = spent := by rw [h.split, List.take_left]
  have hshort := h.short
  have hcovers := h.covers
  refine ⟨?_, ?_, fun j hj => ?_⟩
  · rw [h.split, List.length_append, List.length_cons]
    omega
  · rw [hupTo, allowance_append, allowance_cons, allowance_nil, credit]
    omega
  · have hle : before.allowance (ns.take (j + 1)) ≤ before.allowance (ns.take spent.length) :=
      allowance_take_le hj
    rw [hspent] at hle
    omega

end Accounts

namespace Roster

variable {r : Roster} {purse : PurseNo} {amount : Int64} {links : Nat}

/-- What the accounts in a purse allow together. -/
def allowance (r : Roster) (purse : PurseNo) : Nat :=
  r.ledger.accounts.allowance (r.purses.accounts purse)

/-- No account in a purse is overdrawn by more than half of what a word holds. -/
def InRange (r : Roster) (purse : PurseNo) : Prop :=
  ∀ n ∈ r.purses.accounts purse, -Accounts.overdraft ≤ r.ledger.accounts.balance n

/-! ## Where a charge stops -/

/-- A charge of a purse stopped at a place of its list: the accounts in front have nothing left and
are gone from the purse, the one at the place paid what those in front did not allow, and nothing
else happened. -/
structure StopsAt (r r' : Roster) (purse : PurseNo) (amount : Int) (k : Nat) : Prop where
  left : r'.purses.accounts purse = (r.purses.accounts purse).drop k
  emptied : ∀ n ∈ (r.purses.accounts purse).take k, r'.ledger.accounts.balance n ≤ 0
  stop : ∀ n, (r.purses.accounts purse)[k]? = some n →
    r'.ledger.accounts.balance n = r.ledger.accounts.balance n -
      (amount - r.ledger.accounts.allowance ((r.purses.accounts purse).take k))
  /-- The accounts behind the place are as before. -/
  behind : ∀ n ∈ (r.purses.accounts purse).drop (k + 1),
    r'.ledger.accounts.get? n = r.ledger.accounts.get? n
  /-- Accounts outside the purse are as before. -/
  outside : ∀ n, n ∉ r.purses.accounts purse →
    r'.ledger.accounts.get? n = r.ledger.accounts.get? n
  /-- No account was opened or closed. -/
  size : r'.ledger.accounts.size = r.ledger.accounts.size
  /-- The other purses hold what they held. -/
  purses : ∀ other, other ≠ purse → r'.purses.accounts other = r.purses.accounts other
  /-- All that is neither an account nor a purse is as before. -/
  rest : { r' with
    purses := r.purses
    ledger := { r'.ledger with accounts := r.ledger.accounts } } = r

/-- What was drawn from the accounts of a purse, stopped where it was covered. -/
lemma stopsAt_of_drawn {after : Accounts} {spent rest : List AccountNo} {last : AccountNo}
    (hdistinct : (r.purses.accounts purse).Nodup)
    (h : Accounts.Drawn r.ledger.accounts (r.purses.accounts purse) amount after spent last rest) :
    StopsAt r { r with
        purses := r.purses.set purse (last :: rest)
        ledger := { r.ledger with accounts := after } } purse amount.toInt spent.length := by
  have hsplit := h.split
  have hmem : last ∈ r.purses.accounts purse :=
    hsplit ▸ List.mem_append_right _ List.mem_cons_self
  have hset (other : PurseNo) : Purses.accounts (r.purses.set purse (last :: rest)) other =
      if purse = other ∧ other < r.purses.size then last :: rest else r.purses.accounts other :=
    Purses.accounts_modify _
  rw [hsplit] at hdistinct
  rcases List.nodup_append.mp hdistinct with ⟨-, hcons, hdisjoint⟩
  refine ⟨?_, ?_, ?_, ?_, fun n hn => ?_, h.size, fun other hother => ?_, rfl⟩
  · rw [hset, if_pos ⟨rfl, Purses.lt_size_of_mem hmem⟩, hsplit, List.drop_left]
  · rw [hsplit, List.take_left]
    exact fun n hn => (h.emptied n hn).2
  · rw [hsplit, List.getElem?_append_right (Nat.le_refl _), Nat.sub_self, List.getElem?_cons_zero,
      List.take_left]
    rintro n ⟨⟩
    exact h.last
  · rw [hsplit, List.drop_length_add_append, List.drop_one, List.tail_cons]
    intro n hn
    refine h.others n (fun hs => hdisjoint n hs n (List.mem_cons_of_mem _ hn) rfl) ?_
    rintro rfl
    exact (List.nodup_cons.mp hcons).1 hn
  · refine h.others n (fun hs => hn ?_) fun e => hn (e ▸ hmem)
    rw [hsplit]
    exact List.mem_append_left _ hs
  · rw [hset, if_neg fun e => hother e.1.symm]

/-! ## What a charge takes -/

/-- A purse was charged an amount, and nothing else happened. -/
structure Pays (r r' : Roster) (purse : PurseNo) (amount : Nat) : Prop where
  allowance : r'.allowance purse + amount = r.allowance purse
  total : r'.till.total + amount = r.till.total
  /-- Accounts outside the purse are as before. -/
  accounts : ∀ n, n ∉ r.purses.accounts purse →
    r'.ledger.accounts.get? n = r.ledger.accounts.get? n
  /-- The other purses hold what they held. -/
  purses : ∀ other, other ≠ purse → r'.purses.accounts other = r.purses.accounts other
  /-- All that is neither an account nor a purse is as before. -/
  rest : { r' with
    purses := r.purses
    ledger := { r'.ledger with accounts := r.ledger.accounts } } = r

/-- As long as there were few enough purses, all are in range. -/
lemma Orderly.inRange (h : r.Orderly links) (hfew : r.purses.size ≤ 2 ^ 46) (purse : PurseNo) :
    r.InRange purse := fun n _ => h.till.overdraft_le hfew n

/-- A charge that a purse does not allow changes nothing. -/
lemma charge_of_lt (h : (r.allowance purse : Int) < amount.toInt) :
    r.charge purse amount = (r, false) := by
  have hcredit := Accounts.creditOf_eq r.ledger.accounts (r.purses.accounts purse)
  have hpay : r.ledger.accounts.pay (r.purses.accounts purse) amount =
      (r.ledger.accounts, r.purses.accounts purse, false) := by
    rw [Accounts.pay, if_pos]
    simp only [allowance] at h
    omega
  simp only [charge, Purses.charge, hpay, Purses.set_accounts]

/-- **A charge that a purse allows is paid from it.** -/
theorem pays_charge (h : r.Orderly links) (hpos : 0 < amount.toInt)
    (hsmall : amount.toInt < Accounts.overdraft) (hrange : r.InRange purse)
    (hcovered : amount.toInt ≤ r.allowance purse) :
    (r.charge purse amount).2 = true ∧
      Pays r (r.charge purse amount).1 purse amount.toInt.toNat := by
  have hdistinct : (r.purses.accounts purse).Nodup := h.till.distinct purse
  rcases Purses.charge_spec hdistinct hpos hsmall hrange with
    ⟨hlt, -⟩ | ⟨-, after, spent, n, rest, hdrawn, hcharge⟩
  · exact absurd hcovered (Int.not_le.mpr hlt)
  have hmem : n ∈ r.purses.accounts purse :=
    hdrawn.split ▸ List.mem_append_right _ List.mem_cons_self
  have hstops := stopsAt_of_drawn hdistinct hdrawn
  simp only [charge, hcharge]
  refine ⟨trivial, ?_, ?_, hstops.outside, hstops.purses, rfl⟩
  · have hallowance := hdrawn.allowance hdistinct
    show after.allowance (Purses.accounts (r.purses.modify purse _) purse) + _ = _
    rw [Purses.accounts_modify, if_pos ⟨rfl, Purses.lt_size_of_mem hmem⟩, allowance]
    omega
  · have htotal := hdrawn.total
    show after.total + _ = r.ledger.accounts.total
    omega

/-! ## The charge -/

/-- **A charge is paid exactly if the purse allows it.**  It is taken from the accounts in order, up
to the first that covers it with those in front; a charge that is not paid changes nothing. -/
theorem charge_takes_in_order (r : Roster) (purse : PurseNo) (amount : Int64)
    (hdistinct : (r.purses.accounts purse).Nodup) (hrange : r.InRange purse)
    (hpos : 1 ≤ amount.toInt) (hmost : amount.toInt ≤ Till.largestCharge) :
    ((r.charge purse amount).2 = true ↔ amount.toInt ≤ r.allowance purse) ∧
    ((r.charge purse amount).2 = false → (r.charge purse amount).1 = r) ∧
    ((r.charge purse amount).2 = true → ∃ k,
      r.ledger.accounts.CoveredAt (r.purses.accounts purse) amount.toInt k ∧
        StopsAt r (r.charge purse amount).1 purse amount.toInt k) := by
  have hsmall : amount.toInt < Accounts.overdraft := Int.lt_of_le_of_lt hmost (by decide)
  rcases Purses.charge_spec hdistinct hpos hsmall hrange with
    ⟨hlt, -⟩ | ⟨hle, after, spent, last, rest, hdrawn, hcharge⟩
  · have hlt : (r.allowance purse : Int) < amount.toInt := hlt
    rw [charge_of_lt hlt]
    exact ⟨iff_of_false Bool.false_ne_true (Int.not_le.mpr hlt), fun _ => rfl, nofun⟩
  · simp only [charge, hcharge]
    exact ⟨iff_of_true trivial hle, nofun,
      fun _ => ⟨spent.length, hdrawn.coveredAt, stopsAt_of_drawn hdistinct hdrawn⟩⟩

/-- A roster with one purse, which holds an account that others have overdrawn by five bytes, and
accounts that have three and ten. -/
def owing : Roster :=
  { empty with
    purses := ⟨#[[0, 1, 2]]⟩
    ledger := { Ledger.empty with accounts := ⟨#[⟨7, 0, -5⟩, ⟨8, 0, 3⟩, ⟨9, 0, 10⟩]⟩ } }

/-- Seven bytes are paid by the second and the third account, and the debt of the first is not. -/
theorem owing_pays_seven :
    (owing.charge 0 7).1.purses.accounts 0 = [2] ∧
    (owing.charge 0 7).1.ledger.accounts.balance 2 = 6 ∧
    ∃ k, owing.ledger.accounts.CoveredAt [0, 1, 2] 7 k ∧ StopsAt owing (owing.charge 0 7).1 0 7 k :=
  ⟨by decide, by decide,
    (charge_takes_in_order owing 0 7 (by decide) (by unfold InRange; decide) (by decide)
      (by decide)).2.2 (by decide)⟩

end Roster

end MeteredRelay
