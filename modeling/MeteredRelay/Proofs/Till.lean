import Mathlib.Tactic.Ring
import MeteredRelay.Proofs.Accounts

/-!
# Nothing that was paid for is lost

A till is what payments are about: the ledger and the purses that draw on its accounts.  Payments
are redeemed, purses are started, copied for a binding that moves, filled and charged, in any order.

**`paid_add_total`** says that what charges took and what the accounts still allow add up to what
was redeemed.  It follows from what one act does (`Solvent.charge`, `Solvent.act_of_not_charge`), as
long as no purse holds an account twice and no account is overdrawn too far (`Till.Solvent`).  An
account that is drawn on by several purses is overdrawn again by each of them, so how far it may be
depends on how many charges there were.
-/

namespace MeteredRelay

/-- The ledger and the purses that draw on it. -/
structure Till where
  ledger : Ledger
  purses : Purses

namespace Purses

variable {purses : Purses} {accounts : Accounts} {n m : PurseNo} {account : AccountNo}

/-- What a purse holds after one was changed. -/
lemma accounts_modify (f : List AccountNo → List AccountNo) :
    Purses.accounts (purses.modify m f) n =
      if m = n ∧ n < purses.size then f (purses.accounts n) else purses.accounts n := by
  simp only [Purses.accounts]
  rw [Store.get?_modify]
  by_cases hn : n < purses.size
  · rcases Option.isSome_iff_exists.mp (Store.get?_isSome_iff.mpr hn) with ⟨ns, hns⟩
    simp only [hns, hn, and_true, Option.map_some]
    split <;> rfl
  · have hne : ¬ (m = n ∧ n < purses.size) := fun h => hn h.2
    rw [if_neg hne, Store.get?_eq_none_of_le (Nat.not_lt.mp hn)]
    split <;> rfl

/-- What a purse holds after there was a new one. -/
lemma accounts_add (ns : List AccountNo) :
    Purses.accounts (purses.add ns) n = if n = purses.size then ns else purses.accounts n := by
  simp only [Purses.accounts]
  rw [Store.get?_add]
  split <;> rfl

/-- No account comes into a purse twice, since its payment would. -/
lemma nodup_attach (h : (purses.accounts n).Nodup) :
    ((purses.attach accounts m account).accounts n).Nodup := by
  rw [Purses.attach, accounts_modify]
  split
  · simp only [Accounts.attach]
    split
    · exact h
    split
    · exact h
    · rename_i hany
      refine List.nodup_append.mpr ⟨h, List.pairwise_singleton _ account, ?_⟩
      rintro a ha b hb rfl
      rw [List.mem_singleton.mp hb] at ha
      exact hany (List.any_eq_true.mpr ⟨account, ha, beq_self_eq_true _⟩)
  · exact h

lemma lt_size_of_mem (h : account ∈ purses.accounts n) : n < purses.size := by
  by_contra hn
  rw [accounts, Store.get?_eq_none_of_le (Nat.not_lt.mp hn)] at h
  exact List.not_mem_nil h

/-- A purse that is given what it holds stays. -/
lemma set_accounts (purses : Purses) (n : PurseNo) :
    purses.set n (purses.accounts n) = purses := by
  have hrows : purses.rows.modify n (fun _ => purses.accounts n) = purses.rows := by
    apply Array.ext_getElem?
    intro m
    rw [Array.getElem?_modify]
    split
    · rename_i hm
      subst hm
      simp only [accounts, Store.get?]
      cases purses.rows[n]? <;> rfl
    · rfl
  rw [Store.set, Store.modify, hrows]

variable {amount : Int64}

/-- What a charge of a purse does: it takes the amount from its accounts if they allow it, and else
nothing. -/
lemma charge_spec (hns : (purses.accounts n).Nodup) (hpos : 0 < amount.toInt)
    (hsmall : amount.toInt < Accounts.overdraft)
    (hlow : ∀ m ∈ purses.accounts n, -Accounts.overdraft ≤ accounts.balance m) :
    (accounts.allowance (purses.accounts n) < amount.toInt ∧
      purses.charge accounts n amount = (purses, accounts, false)) ∨
    (amount.toInt ≤ accounts.allowance (purses.accounts n) ∧ ∃ after spent last rest,
      Accounts.Drawn accounts (purses.accounts n) amount after spent last rest ∧
        purses.charge accounts n amount = (purses.set n (last :: rest), after, true)) := by
  rcases Accounts.pay_spec hns hpos hsmall hlow with
    ⟨hlt, hpay⟩ | ⟨hle, spent, last, rest, hdrawn, hpay⟩
  · refine .inl ⟨hlt, ?_⟩
    simp only [charge, hpay, set_accounts]
  · refine .inr ⟨hle, _, spent, last, rest, hdrawn, ?_⟩
    simp only [charge, hpay]

end Purses

namespace Accounts

variable {accounts : Accounts} {tag allowance : UInt64} {endTime : Int64}

lemma toInt_initial (allowance : UInt64) :
    (Account.initial allowance).toInt = min allowance.toNat Account.maxBytes := by
  have hmax : Account.maxBytes = 2 ^ 63 - 1 := rfl
  rw [Account.initial, Int64.toInt_ofNat_of_lt (by omega)]

lemma total_add (a : Account) : total (accounts.add a) = accounts.total + a.credit := by
  simp [total, Store.add, Store.toList]

lemma balance_add (a : Account) (n : AccountNo) :
    balance (accounts.add a) n = if n = accounts.size then a.remaining.toInt
      else accounts.balance n := by
  simp only [balance, remaining]
  rw [Store.get?_add]
  split <;> rfl

end Accounts

namespace Till

/-- Nothing was redeemed yet. -/
def empty : Till := ⟨.empty, .empty⟩

/-- What may happen to a till. -/
inductive Act where
  /-- A payment is redeemed. -/
  | redeem (tag allowance : UInt64) (endTime : Int64)
  /-- A rotation cookie is used. -/
  | redeemRotation (tag : UInt64) (endTime : Int64)
  /-- What ended before a second is forgotten. -/
  | sweep (now : Int64)
  /-- There is a new purse, which is empty. -/
  | start
  /-- There is a new purse, which holds what another holds. -/
  | copy (purse : PurseNo)
  /-- An account is put into a purse. -/
  | attach (purse : PurseNo) (account : AccountNo)
  /-- A purse is charged. -/
  | charge (purse : PurseNo) (amount : Int64)
deriving DecidableEq

/-- The till after an act. -/
def act (t : Till) : Act → Till
  | .redeem tag allowance endTime => { t with ledger := (t.ledger.redeem tag allowance endTime).1 }
  | .redeemRotation tag endTime =>
    { t with ledger := (t.ledger.redeemRotation? tag endTime).getD t.ledger }
  | .sweep now => { t with ledger := t.ledger.sweep now }
  | .start => { t with purses := t.purses.start }
  | .copy purse => { t with purses := t.purses.copy purse }
  | .attach purse account =>
    { t with purses := t.purses.attach t.ledger.accounts purse account }
  | .charge purse amount =>
    let (purses, accounts, _) := t.purses.charge t.ledger.accounts purse amount
    ⟨{ t.ledger with accounts }, purses⟩

/-- The till after a run of acts. -/
def run (t : Till) (acts : List Act) : Till := acts.foldl act t

/-- What all accounts allow together. -/
def total (t : Till) : Nat := t.ledger.accounts.total

/-- What an act takes: the amount of a charge that succeeds. -/
def paidBy (t : Till) : Act → Nat
  | .charge purse amount =>
    if (t.purses.charge t.ledger.accounts purse amount).2.2 then amount.toInt.toNat else 0
  | _ => 0

/-- What an act brings in: the allowance of a payment that opens an account, as far as a signed word
holds it. -/
def grantedBy (t : Till) : Act → Nat
  | .redeem tag allowance _ =>
    if t.ledger.payments.contains tag then 0 else min allowance.toNat Account.maxBytes
  | _ => 0

/-- What a run takes. -/
def paid : Till → List Act → Nat
  | _, [] => 0
  | t, a :: as => t.paidBy a + (t.act a).paid as

/-- What a run brings in. -/
def granted : Till → List Act → Nat
  | _, [] => 0
  | t, a :: as => t.grantedBy a + (t.act a).granted as

/-- The most that one charge may be: the bytes of the largest datagram. -/
def largestCharge : Nat := 65536

/-- Whether an act is a charge. -/
def Act.isCharge : Act → Bool
  | .charge _ _ => true
  | _ => false

/-- An act that does not charge more than a datagram, nor nothing. -/
def Act.Moderate : Act → Prop
  | .charge _ amount => 1 ≤ amount.toInt ∧ amount.toInt ≤ largestCharge
  | _ => True

/-- No purse holds an account twice, and no account is overdrawn by more than `debt`. -/
structure Solvent (debt : Int) (t : Till) : Prop where
  distinct : ∀ n, (t.purses.accounts n).Nodup
  bounded : ∀ n, -debt ≤ t.ledger.accounts.balance n

variable {t : Till} {debt : Int} {purse : PurseNo} {amount : Int64}

/-! ## Redeeming -/

/-- A payment that is redeemed opens an account, or has one. -/
lemma redeem_cases (l : Ledger) (tag allowance : UInt64) (endTime : Int64) :
    (l.payments.contains tag = true ∧ (l.redeem tag allowance endTime).1 = l) ∨
    (l.payments.contains tag = false ∧ (l.redeem tag allowance endTime).1.accounts =
      l.accounts.add (.start tag allowance endTime)) := by
  simp only [Ledger.redeem, Table.contains]
  cases l.payments.get? tag with
  | none => exact .inr ⟨rfl, rfl⟩
  | some n => exact .inl ⟨rfl, rfl⟩

lemma accounts_redeemRotation (l : Ledger) (tag : UInt64) (endTime : Int64) :
    ((l.redeemRotation? tag endTime).getD l).accounts = l.accounts := by
  simp only [Ledger.redeemRotation?]
  split <;> rfl

/-! ## Charging -/

/-- What a charge of a solvent till does: it takes its amount and leaves no account overdrawn by
more than that, or it does nothing. -/
lemma Solvent.charge (h : t.Solvent debt) (hdebt : debt ≤ Accounts.overdraft)
    (hmod : (Act.charge purse amount).Moderate) :
    (t.act (.charge purse amount)).Solvent (debt + largestCharge) ∧
      (t.act (.charge purse amount)).total + t.paidBy (.charge purse amount) = t.total := by
  rcases hmod with ⟨hpos, hmost⟩
  have hsmall : amount.toInt < Accounts.overdraft :=
    Int.lt_of_le_of_lt hmost (by decide)
  have hlow : ∀ m ∈ t.purses.accounts purse,
      -Accounts.overdraft ≤ t.ledger.accounts.balance m := fun m _ => by
    have := h.bounded m
    omega
  rcases Purses.charge_spec (h.distinct purse) hpos hsmall hlow with
    ⟨-, hcharge⟩ | ⟨-, after, spent, n, rest, hdrawn, hcharge⟩
  · simp only [act, paidBy, hcharge, Bool.false_eq_true, if_false]
    refine ⟨⟨h.distinct, fun n => ?_⟩, rfl⟩
    have := h.bounded n
    show -(debt + largestCharge) ≤ t.ledger.accounts.balance n
    omega
  · simp only [act, paidBy, hcharge, if_true]
    refine ⟨⟨fun m => ?_, fun m => ?_⟩, ?_⟩
    · show (Purses.accounts (t.purses.modify purse _) m).Nodup
      rw [Purses.accounts_modify]
      split
      · exact (List.nodup_append.mp (hdrawn.split ▸ h.distinct purse)).2.1
      · exact h.distinct m
    · show -(debt + largestCharge) ≤ after.balance m
      have := h.bounded m
      have hafter : t.ledger.accounts.balance m - amount.toInt ≤ after.balance m := by
        by_cases hm : m ∈ spent
        · exact (hdrawn.emptied m hm).1
        · by_cases hmn : m = n
          · have := hdrawn.last
            subst m
            omega
          · have := Accounts.balance_congr (hdrawn.others m hm hmn)
            omega
      omega
    · have htotal := hdrawn.total
      show after.total + amount.toInt.toNat = t.ledger.accounts.total
      omega

/-! ## Other acts -/

/-- An act that is no charge takes nothing, and overdraws nothing. -/
lemma Solvent.act_of_not_charge (h : t.Solvent debt) (hdebt : 0 ≤ debt) {a : Act}
    (ha : a.isCharge = false) :
    (t.act a).Solvent debt ∧ (t.act a).total + t.paidBy a = t.total + t.grantedBy a := by
  cases a with
  | charge purse amount => contradiction
  | redeem tag allowance endTime =>
      rcases redeem_cases t.ledger tag allowance endTime with ⟨hknown, hl⟩ | ⟨hnew, hl⟩
      · simp only [Till.act, hl, paidBy, grantedBy, hknown, if_true]
        exact ⟨h, trivial⟩
      · have hinitial := Accounts.toInt_initial allowance
        refine ⟨⟨h.distinct, fun n => ?_⟩, ?_⟩
        · simp only [Till.act, hl, Accounts.balance_add]
          split
          · show _ ≤ (Account.initial allowance).toInt
            omega
          · exact h.bounded n
        · simp only [Till.act, total, hl, Accounts.total_add, paidBy, grantedBy, hnew]
          show _ + (Account.initial allowance).toInt.toNat + 0 = _
          rw [hinitial]
          rfl
  | redeemRotation tag endTime =>
      have hacc := accounts_redeemRotation t.ledger tag endTime
      simp only [Till.act, total, hacc, paidBy, grantedBy, and_true]
      exact ⟨h.distinct, fun n => by simpa only [hacc] using h.bounded n⟩
  | sweep now => exact ⟨⟨h.distinct, h.bounded⟩, rfl⟩
  | start =>
      refine ⟨⟨fun n => ?_, h.bounded⟩, rfl⟩
      simp only [Till.act, Purses.start, Purses.accounts_add]
      split
      · exact List.Pairwise.nil
      · exact h.distinct n
  | copy purse =>
      refine ⟨⟨fun n => ?_, h.bounded⟩, rfl⟩
      simp only [Till.act, Purses.copy, Purses.accounts_add]
      split
      · exact h.distinct purse
      · exact h.distinct n
  | attach purse account =>
      exact ⟨⟨fun n => Purses.nodup_attach (h.distinct n), h.bounded⟩, rfl⟩

/-! ## Runs -/

/-- How many charges there are in a run. -/
def charges (acts : List Act) : Nat := acts.countP Act.isCharge

/-- **What a run does to a solvent till**, if there are few enough charges in it: what was taken and
what is left is what there was and what came in. -/
theorem Solvent.run (h : t.Solvent debt) (hdebt : 0 ≤ debt) {acts : List Act}
    (hmod : ∀ a ∈ acts, a.Moderate)
    (hfew : debt + largestCharge * charges acts ≤ Accounts.overdraft + largestCharge) :
    (t.run acts).Solvent (debt + largestCharge * charges acts) ∧
      (t.run acts).total + t.paid acts = t.total + t.granted acts := by
  induction acts generalizing t debt with
  | nil => simpa [Till.run, paid, granted, charges] using h
  | cons a as ih =>
      rcases List.forall_mem_cons.mp hmod with ⟨ha, has⟩
      have hstep : (t.act a).total + t.paidBy a = t.total + t.grantedBy a ∧
          ∃ debt', (t.act a).Solvent debt' ∧ 0 ≤ debt' ∧
            debt' + largestCharge * charges as = debt + largestCharge * charges (a :: as) := by
        cases hc : a.isCharge with
        | false =>
            rcases h.act_of_not_charge hdebt hc with ⟨hsolvent, htotal⟩
            refine ⟨htotal, debt, hsolvent, hdebt, ?_⟩
            rw [charges, charges, List.countP_cons_of_neg (by simp [hc])]
        | true =>
            have hcount : charges (a :: as) = charges as + 1 := List.countP_cons_of_pos hc
            rw [hcount] at hfew
            cases a with
            | charge purse amount =>
                have hroom : debt ≤ Accounts.overdraft := by
                  simp only [largestCharge] at hfew
                  omega
                rcases h.charge hroom ha with ⟨hsolvent, htotal⟩
                refine ⟨htotal, _, hsolvent, ?_, ?_⟩
                · omega
                · rw [hcount]
                  push_cast
                  ring
            | _ => contradiction
      rcases hstep with ⟨htotal, debt', hsolvent, hnonneg, heq⟩
      rcases ih hsolvent hnonneg has (heq ▸ hfew) with ⟨hsolvent', htotal'⟩
      refine ⟨heq ▸ hsolvent', ?_⟩
      show ((t.act a).run as).total + (t.paidBy a + (t.act a).paid as) =
        t.total + (t.grantedBy a + (t.act a).granted as)
      omega

lemma solvent_empty : empty.Solvent 0 where
  distinct := fun _ => List.Pairwise.nil
  bounded := fun _ => Int.le_refl 0

/-- **Nothing that was paid for is lost.**  In any run with fewer than `2 ^ 46` charges of one to
65536 bytes, what charges took and what all accounts still allow is what was redeemed. -/
theorem paid_add_total (acts : List Act)
    (hmod : ∀ purse amount, Act.charge purse amount ∈ acts →
      1 ≤ amount.toInt ∧ amount.toInt ≤ 65536)
    (hfew : charges acts < 2 ^ 46) :
    empty.paid acts + (empty.run acts).total = empty.granted acts := by
  have hmod' : ∀ a ∈ acts, a.Moderate := by
    intro a ha
    cases a with
    | charge purse amount => exact hmod purse amount ha
    | _ => trivial
  have h := (solvent_empty.run (Int.le_refl 0) hmod' (by
    simp only [largestCharge, Accounts.overdraft]
    omega)).2
  change _ = 0 + _ at h
  omega

/-- A payment of ten bytes in two purses: the second is refused what the first left too little
for. -/
def sharedRun : List Act :=
  [.redeem 7 10 0, .start, .attach 0 0, .copy 0, .charge 0 4, .charge 1 8, .charge 1 5]

theorem paid_add_total_sharedRun :
    empty.paid sharedRun = 9 ∧
      empty.paid sharedRun + (empty.run sharedRun).total = empty.granted sharedRun := by
  refine ⟨by decide, paid_add_total sharedRun ?_ (by decide)⟩
  intro purse amount h
  simp only [sharedRun, List.mem_cons, reduceCtorEq, Act.charge.injEq, List.not_mem_nil, or_false,
    false_or] at h
  rcases h with ⟨-, rfl⟩ | ⟨-, rfl⟩ | ⟨-, rfl⟩ <;> decide

end Till

end MeteredRelay
