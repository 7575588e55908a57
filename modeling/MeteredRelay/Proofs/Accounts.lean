import Mathlib.Algebra.BigOperators.Group.List.Basic
import Mathlib.Algebra.GroupWithZero.Nat
import Mathlib.Tactic.Common
import MeteredRelay.Purse

/-!
# What a charge takes

A charge goes through a list of accounts.  It empties the accounts in front, which leave the list,
and takes what is missing from the first one that allows this much.  **`drawOn_spec`** says so of
every list without repetitions whose accounts allow the charge together, whatever they were
overdrawn by before; **`pay_spec`** adds that any other charge leaves everything as it is.

Amounts are signed words, and a word that is counted down far enough comes out positive.  The
statements ask therefore that no account is overdrawn by more than half of what a word holds
(`Accounts.overdraft`).
-/

namespace MeteredRelay

/-- A difference that fits in a signed word is computed exactly. -/
lemma toInt_sub_of_fits {a b : Int64} (hl : -2 ^ 63 ≤ a.toInt - b.toInt)
    (hu : a.toInt - b.toInt < 2 ^ 63) : (a - b).toInt = a.toInt - b.toInt := by
  rw [Int64.toInt_sub]
  exact Int.bmod_eq_of_le (by omega) (by omega)

lemma toInt_pos_iff {a : Int64} : 0 < a ↔ 0 < a.toInt := Int64.lt_iff_toInt_lt

lemma toInt_nonneg_iff {a : Int64} : 0 ≤ a ↔ 0 ≤ a.toInt := Int64.le_iff_toInt_le

lemma toInt_neg_iff {a : Int64} : a < 0 ↔ a.toInt < 0 := Int64.lt_iff_toInt_lt

lemma toInt_min (a b : Int64) : (min a b).toInt = min a.toInt b.toInt := by
  show (if a ≤ b then a else b).toInt = _
  split
  · rename_i h
    exact (Int.min_eq_left (Int64.le_iff_toInt_le.mp h)).symm
  · rename_i h
    exact (Int.min_eq_right (Int.le_of_not_le fun h' => h (Int64.le_iff_toInt_le.mpr h'))).symm

/-- A row that changes, changes a sum over a store by as much. -/
lemma Store.sum_modify {α : Type} (s : Store α) (n : Nat) (f : α → α) (g : α → Nat) :
    ((s.modify n f).toList.map g).sum + ((s.get? n).map g).getD 0 =
      (s.toList.map g).sum + ((s.get? n).map fun a => g (f a)).getD 0 := by
  have hl : ∀ (l : List α) (n : Nat), ((l.modify n f).map g).sum + ((l[n]?).map g).getD 0 =
      (l.map g).sum + ((l[n]?).map fun a => g (f a)).getD 0 := by
    intro l
    induction l with
    | nil => simp
    | cons a l ih =>
        rintro (_ | n)
        · simp
          omega
        · have := ih n
          simp only [List.modify_succ_cons, List.map_cons, List.sum_cons, List.getElem?_cons_succ]
          omega
  have := hl s.rows.toList n
  simpa [Store.modify, Store.toList, Store.get?] using this

namespace Accounts

/-- The most that an account may be overdrawn by in the statements below. -/
def overdraft : Int := 2 ^ 62

/-- What is left in an account; negative if it is overdrawn. -/
def balance (accounts : Accounts) (n : AccountNo) : Int := (accounts.remaining n).toInt

/-- What an account allows. -/
def credit (accounts : Accounts) (n : AccountNo) : Nat := (accounts.balance n).toNat

/-- What several accounts allow together. -/
def allowance (accounts : Accounts) (ns : List AccountNo) : Nat := (ns.map accounts.credit).sum

/-- What all accounts allow together. -/
def total (accounts : Accounts) : Nat := (accounts.toList.map Account.credit).sum

variable {accounts before after : Accounts} {ns spent rest : List AccountNo} {n m : AccountNo}
  {amount : Int64}

/-! ## One account -/

lemma balance_congr (h : after.get? m = before.get? m) : after.balance m = before.balance m := by
  rw [balance, remaining, h, balance, remaining]

lemma balance_of_le (h : accounts.size ≤ n) : accounts.balance n = 0 := by
  rw [balance, remaining, Store.get?_eq_none_of_le h]
  rfl

lemma lt_size_of_balance_pos (h : 0 < accounts.balance n) : n < accounts.size := by
  by_contra hn
  rw [balance_of_le (Nat.not_lt.mp hn)] at h
  exact absurd h (Int.lt_irrefl 0)

lemma credit_eq : accounts.credit n = ((accounts.get? n).map Account.credit).getD 0 := by
  rw [credit, balance, remaining]
  cases accounts.get? n <;> rfl

@[simp] lemma size_charge : (accounts.charge n amount).size = accounts.size := Store.size_modify ..

lemma get?_charge_of_ne (h : m ≠ n) : (accounts.charge n amount).get? m = accounts.get? m := by
  rw [charge, Store.get?_modify, if_neg h.symm]

/-- What is left in an account that was charged. -/
lemma balance_charge (hn : n < accounts.size) (hpos : 0 ≤ amount.toInt)
    (hlow : -2 ^ 63 ≤ accounts.balance n - amount.toInt) :
    (accounts.charge n amount).balance n = accounts.balance n - amount.toInt := by
  rcases Option.isSome_iff_exists.mp (Store.get?_isSome_iff.mpr hn) with ⟨a, ha⟩
  have hup := a.remaining.toInt_lt
  simp only [balance, remaining, ha, Option.map_some, Option.getD_some] at hlow ⊢
  simp only [charge, Store.get?_modify, if_true, ha, Option.map_some, Option.getD_some]
  exact toInt_sub_of_fits hlow (by omega)

/-- A charge takes from the total what it takes from its account. -/
lemma total_charge (accounts : Accounts) (n : AccountNo) (amount : Int64) :
    (accounts.charge n amount).total + accounts.credit n =
      accounts.total + (accounts.charge n amount).credit n := by
  have h := Store.sum_modify accounts n (·.charged amount) Account.credit
  rw [credit_eq, credit_eq, charge, Store.get?_modify, if_pos rfl, Option.map_map]
  exact h

/-! ## A list of accounts -/

@[simp] lemma allowance_nil : accounts.allowance [] = 0 := rfl

@[simp] lemma allowance_cons :
    accounts.allowance (n :: ns) = accounts.credit n + accounts.allowance ns := by
  simp [allowance]

lemma allowance_congr (h : ∀ m ∈ ns, after.get? m = before.get? m) :
    after.allowance ns = before.allowance ns := by
  simp only [allowance]
  congr 1
  refine List.map_congr_left fun m hm => ?_
  rw [credit, credit, balance_congr (h m hm)]

/-- What the server counts as allowed is what is allowed, as far as a signed word holds it. -/
lemma creditOf_eq (accounts : Accounts) (ns : List AccountNo) :
    accounts.creditOf ns = min (accounts.allowance ns) Account.maxBytes := by
  have h : ∀ start ≤ Account.maxBytes,
      ns.foldl (fun total n => min (total + accounts.credit n) Account.maxBytes) start =
        min (start + accounts.allowance ns) Account.maxBytes := by
    induction ns with
    | nil =>
        intro start hstart
        exact (Nat.min_eq_left hstart).symm
    | cons n ns ih =>
        intro start hstart
        rw [List.foldl_cons, ih _ (Nat.min_le_right ..), allowance_cons]
        omega
  exact (h 0 (Nat.zero_le _)).trans (by rw [Nat.zero_add])

/-- What a charge that succeeded took: everything from the accounts in front, and what was missing
from the next. -/
structure Drawn (before : Accounts) (ns : List AccountNo) (amount : Int64) (after : Accounts)
    (spent : List AccountNo) (n : AccountNo) (rest : List AccountNo) : Prop where
  split : ns = spent ++ n :: rest
  /-- The accounts in front do not suffice. -/
  short : (before.allowance spent : Int) < amount.toInt
  /-- The next one has what is missing. -/
  covers : amount.toInt ≤ before.allowance spent + before.balance n
  size : after.size = before.size
  emptied : ∀ m ∈ spent, before.balance m - amount.toInt ≤ after.balance m ∧ after.balance m ≤ 0
  last : after.balance n = before.balance n - (amount.toInt - before.allowance spent)
  others : ∀ m, m ∉ spent → m ≠ n → after.get? m = before.get? m
  total : (after.total : Int) + amount.toInt = before.total

/-- Accounts that are not in the list are not charged. -/
lemma get?_drawOn_of_notMem (hm : m ∉ ns) (accounts : Accounts) (amount : Int64) :
    (accounts.drawOn ns amount).1.get? m = accounts.get? m := by
  induction ns generalizing accounts amount with
  | nil => rfl
  | cons n ns ih =>
      obtain ⟨hne, hm⟩ := not_or.mp (List.mem_cons.not.mp hm)
      rw [drawOn]
      split
      · dsimp only
        split
        · exact get?_charge_of_ne hne
        · rw [ih hm, get?_charge_of_ne hne]
      · rfl

lemma get?_pay_of_notMem (hm : m ∉ ns) (accounts : Accounts) (amount : Int64) :
    (accounts.pay ns amount).1.get? m = accounts.get? m := by
  rw [pay]
  split
  · rfl
  · exact get?_drawOn_of_notMem hm accounts amount

/-- The account in front has enough. -/
lemma drawOn_of_le (hpos : 0 < amount.toInt) (h : amount.toInt ≤ accounts.balance n) :
    accounts.drawOn (n :: rest) amount = (accounts.charge n amount, n :: rest, true) := by
  have hup := (accounts.remaining n).toInt_lt
  have hleft : (accounts.remaining n - amount).toInt = accounts.balance n - amount.toInt :=
    toInt_sub_of_fits (by unfold balance at h; omega) (by omega)
  have hle : 0 ≤ accounts.remaining n - amount := by
    rw [toInt_nonneg_iff, hleft]
    exact Int.sub_nonneg_of_le h
  rw [drawOn, if_pos (toInt_pos_iff.mpr hpos)]
  dsimp only
  rw [if_pos hle]

/-- The account in front has too little: what it allows is taken, and the rest of the list is
charged with what is missing. -/
lemma drawOn_of_lt (rest : List AccountNo) (hpos : 0 < amount.toInt)
    (hsmall : amount.toInt < overdraft) (h : accounts.balance n < amount.toInt)
    (hlow : -overdraft ≤ accounts.balance n) :
    ∃ missing : Int64, missing.toInt = amount.toInt - accounts.credit n ∧
      accounts.drawOn (n :: rest) amount = (accounts.charge n amount).drawOn rest missing := by
  have hleft : (accounts.remaining n - amount).toInt = accounts.balance n - amount.toInt :=
    toInt_sub_of_fits (by unfold balance overdraft at *; omega) (by unfold balance at h; omega)
  have hneg : (-(accounts.remaining n - amount)).toInt = amount.toInt - accounts.balance n := by
    rw [Int64.toInt_neg, hleft, Int.bmod_eq_of_le] <;> unfold overdraft at * <;> omega
  have hlt : ¬ 0 ≤ accounts.remaining n - amount := by
    rw [toInt_nonneg_iff, hleft]
    omega
  refine ⟨min (-(accounts.remaining n - amount)) amount, ?_, ?_⟩
  · -- a debt from before is not charged again
    rw [toInt_min, hneg, credit]
    omega
  · rw [drawOn, if_pos (toInt_pos_iff.mpr hpos)]
    dsimp only
    rw [if_neg hlt]

/-- The account in front pays alone. -/
lemma drawn_of_le (hpos : 0 < amount.toInt) (h : amount.toInt ≤ accounts.balance n) :
    Drawn accounts (n :: rest) amount (accounts.charge n amount) [] n rest := by
  have hlt : n < accounts.size := lt_size_of_balance_pos (Int.lt_of_lt_of_le hpos h)
  have hbal := balance_charge hlt (Int.le_of_lt hpos) (by omega)
  have htotal := total_charge accounts n amount
  refine ⟨rfl, hpos, ?_, size_charge, nofun, ?_, fun m _ hm => get?_charge_of_ne hm, ?_⟩
  · rw [allowance_nil]
    omega
  · rw [hbal, allowance_nil]
    omega
  · simp only [credit] at htotal
    rw [hbal] at htotal
    omega

/-- The account in front is emptied, and others pay what is missing. -/
lemma Drawn.cons {missing : Int64} (hn : n ∉ ns) (hpos : 0 < amount.toInt)
    (hsmall : amount.toInt < overdraft) (hlow : -overdraft ≤ accounts.balance n)
    (hlt : accounts.balance n < amount.toInt)
    (hmissing : missing.toInt = amount.toInt - accounts.credit n)
    (h : Drawn (accounts.charge n amount) ns missing after spent m rest) :
    Drawn accounts (n :: ns) amount after (n :: spent) m rest := by
  have hns : ∀ k ∈ ns, k ≠ n := fun k hk e => hn (e ▸ hk)
  have hspent : ∀ k ∈ spent, k ∈ ns := fun k hk => h.split ▸ List.mem_append_left _ hk
  have hm : m ∈ ns := h.split ▸ List.mem_append_right _ List.mem_cons_self
  have hrest : ∀ k ∈ ns, (accounts.charge n amount).get? k = accounts.get? k :=
    fun k hk => get?_charge_of_ne (hns k hk)
  have hallow : (accounts.charge n amount).allowance spent = accounts.allowance spent :=
    allowance_congr fun k hk => hrest k (hspent k hk)
  have hlast := balance_congr (hrest m hm)
  have hfront : after.balance n = (accounts.charge n amount).balance n :=
    balance_congr (h.others n (fun hk => hn (hspent n hk)) fun e => hn (e ▸ hm))
  -- an account that there is not has nothing, before and after
  have hcharged : accounts.balance n - amount.toInt ≤ (accounts.charge n amount).balance n ∧
      (accounts.charge n amount).balance n ≤ 0 := by
    by_cases hsize : n < accounts.size
    · rw [balance_charge hsize (Int.le_of_lt hpos) (by unfold overdraft at *; omega)]
      omega
    · have h0 := balance_of_le (Nat.not_lt.mp hsize)
      have h0' : (accounts.charge n amount).balance n = 0 :=
        balance_of_le (by rw [size_charge]; exact Nat.not_lt.mp hsize)
      omega
  refine ⟨?_, ?_, ?_, ?_, ?_, ?_, ?_, ?_⟩
  · rw [h.split, List.cons_append]
  · have := h.short
    rw [allowance_cons]
    omega
  · have := h.covers
    rw [allowance_cons]
    omega
  · rw [h.size, size_charge]
  · intro k hk
    rcases List.mem_cons.mp hk with rfl | hk
    · omega
    · have := h.emptied k hk
      have := balance_congr (hrest k (hspent k hk))
      omega
  · have := h.last
    rw [allowance_cons]
    omega
  · intro k hk hkm
    rw [List.mem_cons, not_or] at hk
    rw [h.others k hk.2 hkm, get?_charge_of_ne hk.1]
  · have := h.total
    have htotal := total_charge accounts n amount
    rw [credit, credit] at htotal
    rw [credit] at hmissing
    omega

/-- **A charge that a list of accounts allows is taken from it.** -/
theorem drawOn_spec (hns : ns.Nodup) (hpos : 0 < amount.toInt) (hsmall : amount.toInt < overdraft)
    (hlow : ∀ m ∈ ns, -overdraft ≤ accounts.balance m)
    (hcovered : amount.toInt ≤ accounts.allowance ns) :
    ∃ spent n rest, Drawn accounts ns amount (accounts.drawOn ns amount).1 spent n rest ∧
      (accounts.drawOn ns amount).2 = (n :: rest, true) := by
  induction ns generalizing accounts amount with
  | nil => exact absurd hcovered (Int.not_le.mpr hpos)
  | cons n ns ih =>
      rcases List.nodup_cons.mp hns with ⟨hn, hns⟩
      by_cases hle : amount.toInt ≤ accounts.balance n
      · rw [drawOn_of_le hpos hle]
        exact ⟨[], n, ns, drawn_of_le hpos hle, rfl⟩
      · have hlt := Int.not_le.mp hle
        have hlow' := hlow n List.mem_cons_self
        rcases drawOn_of_lt ns hpos hsmall hlt hlow' with ⟨missing, hmissing, hdraw⟩
        have hrest : ∀ k ∈ ns, (accounts.charge n amount).get? k = accounts.get? k :=
          fun k hk => get?_charge_of_ne fun e => hn (e ▸ hk)
        have hcredit : accounts.credit n = (accounts.balance n).toNat := rfl
        rw [allowance_cons] at hcovered
        have hpos' : 0 < missing.toInt := by omega
        have hlows : ∀ k ∈ ns, -overdraft ≤ (accounts.charge n amount).balance k := fun k hk => by
          rw [balance_congr (hrest k hk)]
          exact hlow k (List.mem_cons_of_mem _ hk)
        have hmore : missing.toInt ≤ (accounts.charge n amount).allowance ns := by
          rw [allowance_congr hrest]
          omega
        rcases ih hns hpos' (by omega) hlows hmore with ⟨spent, m, rest, hdrawn, hresult⟩
        rw [hdraw]
        exact ⟨n :: spent, m, rest, hdrawn.cons hn hpos hsmall hlow' hlt hmissing, hresult⟩

/-- **A charge is taken exactly if the accounts allow it together, and else nothing happens.** -/
theorem pay_spec (hns : ns.Nodup) (hpos : 0 < amount.toInt) (hsmall : amount.toInt < overdraft)
    (hlow : ∀ m ∈ ns, -overdraft ≤ accounts.balance m) :
    (accounts.allowance ns < amount.toInt ∧ accounts.pay ns amount = (accounts, ns, false)) ∨
    (amount.toInt ≤ accounts.allowance ns ∧
      ∃ spent n rest, Drawn accounts ns amount (accounts.pay ns amount).1 spent n rest ∧
        (accounts.pay ns amount).2 = (n :: rest, true)) := by
  have hcredit := creditOf_eq accounts ns
  have hup : amount.toInt < 2 ^ 63 := amount.toInt_lt
  have hmax : Account.maxBytes = 2 ^ 63 - 1 := rfl
  simp only [pay]
  split
  · exact .inl ⟨by omega, rfl⟩
  · have hcovered : amount.toInt ≤ accounts.allowance ns := by omega
    exact .inr ⟨hcovered, drawOn_spec hns hpos hsmall hlow hcovered⟩

end Accounts

end MeteredRelay
