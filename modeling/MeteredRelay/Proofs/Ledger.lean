import MeteredRelay.Proofs.Till

/-!
# What the ledger remembers

For each function of the ledger this file says what is read afterwards: whose account a payment has,
which rotation cookies are known, and what is written on the accounts.  A charge changes what is
left in an account and nothing else (**`label_pay`**), so an account names its payment, and the last
second of it, for ever.
-/

namespace MeteredRelay

namespace Accounts

variable {accounts : Accounts} {n : AccountNo}

/-- What is written on an account: its payment, and the last second of it. -/
def label (accounts : Accounts) (n : AccountNo) : Option (UInt64 × Int64) :=
  (accounts.get? n).map fun a => (a.tag, a.endTime)

lemma tag?_eq (accounts : Accounts) (n : AccountNo) :
    accounts.tag? n = (accounts.label n).map Prod.fst := by
  rw [tag?, label, Option.map_map]
  rfl

lemma tag?_eq_some_iff {tag : UInt64} :
    accounts.tag? n = some tag ↔ ∃ endTime, accounts.label n = some (tag, endTime) := by
  rw [tag?_eq]
  cases accounts.label n with
  | none => simp
  | some label => exact ⟨fun h => ⟨label.2, congrArg some (Prod.ext (Option.some.inj h) rfl)⟩,
      fun ⟨_, h⟩ => congrArg _ h⟩

lemma label_of_le (h : accounts.size ≤ n) : accounts.label n = none := by
  rw [label, Store.get?_eq_none_of_le h]
  rfl

lemma label_add (a : Account) (n : AccountNo) :
    label (accounts.add a) n = if n = accounts.size then some (a.tag, a.endTime)
      else accounts.label n := by
  rw [label, Store.get?_add]
  split <;> rfl

lemma tag?_add (a : Account) (n : AccountNo) :
    tag? (accounts.add a) n = if n = accounts.size then some a.tag else accounts.tag? n := by
  rw [tag?_eq, label_add, tag?_eq]
  split <;> rfl

lemma label_charge (amount : Int64) (m n : AccountNo) :
    (accounts.charge m amount).label n = accounts.label n := by
  rw [label, charge, Store.get?_modify, label]
  split
  · rw [Option.map_map]
    rfl
  · rfl

lemma label_drawOn (accounts : Accounts) (ns : List AccountNo) (amount : Int64) (n : AccountNo) :
    (accounts.drawOn ns amount).1.label n = accounts.label n := by
  induction ns generalizing accounts amount with
  | nil => rfl
  | cons m ns ih =>
      rw [drawOn]
      split
      · dsimp only
        split
        · exact label_charge amount m n
        · rw [ih, label_charge]
      · rfl

/-- **A charge writes nothing else on an account than what is left.** -/
theorem label_pay (accounts : Accounts) (ns : List AccountNo) (amount : Int64) (n : AccountNo) :
    (accounts.pay ns amount).1.label n = accounts.label n := by
  simp only [pay]
  split
  · rfl
  · exact label_drawOn accounts ns amount n

end Accounts

namespace Ledger

variable {l l' : Ledger} {tag t : UInt64} {endTime : Int64}

/-! ## Payments -/

/-- A payment that is known keeps its account. -/
lemma redeem_of_some {n : AccountNo} (h : l.payments.get? tag = some n) (allowance : UInt64)
    (endTime : Int64) : l.redeem tag allowance endTime = (l, n) := by
  rw [redeem, h]

/-- A payment that is not known gets the next account. -/
lemma redeem_of_none (h : l.payments.get? tag = none) (allowance : UInt64) (endTime : Int64) :
    l.redeem tag allowance endTime =
      ({ l with
          accounts := l.accounts.add (.start tag allowance endTime)
          payments := l.payments.insert tag l.accounts.size },
        l.accounts.size) := by
  rw [redeem, h]

/-- An account stays as it is when a payment is redeemed. -/
lemma get?_accounts_redeem {n : AccountNo} {a : Account} (h : l.accounts.get? n = some a)
    (tag allowance : UInt64) (endTime : Int64) :
    (l.redeem tag allowance endTime).1.accounts.get? n = some a := by
  cases hp : l.payments.get? tag with
  | some m => rw [redeem_of_some hp, h]
  | none =>
      rw [redeem_of_none hp, Store.get?_add, if_neg, h]
      rintro rfl
      rw [Store.get?_eq_none_of_le (Nat.le_refl _)] at h
      contradiction

/-- What is written on an account stays when a payment is redeemed. -/
lemma label_redeem_of_some {n : AccountNo} {label : UInt64 × Int64}
    (h : l.accounts.label n = some label) (allowance : UInt64) :
    (l.redeem tag allowance endTime).1.accounts.label n = some label := by
  cases hp : l.payments.get? tag with
  | some m => rw [redeem_of_some hp, h]
  | none =>
      rw [redeem_of_none hp, Accounts.label_add, if_neg, h]
      rintro rfl
      rw [Accounts.label_of_le (Nat.le_refl _)] at h
      contradiction

/-- A payment that is redeemed leaves the accounts of others. -/
lemma label_redeem_iff_of_ne {n : AccountNo} (hne : tag ≠ t) (allowance : UInt64) {e : Int64} :
    (l.redeem tag allowance endTime).1.accounts.label n = some (t, e) ↔
      l.accounts.label n = some (t, e) := by
  cases hp : l.payments.get? tag with
  | some m => rw [redeem_of_some hp]
  | none =>
      rw [redeem_of_none hp, Accounts.label_add]
      split
      · rename_i hn
        rw [hn, Accounts.label_of_le (Nat.le_refl _)]
        simp [Account.start, hne]
      · rfl

/-- A payment that is redeemed leaves what is known of others. -/
lemma get?_payments_redeem_of_ne (hne : tag ≠ t) (allowance : UInt64) :
    (l.redeem tag allowance endTime).1.payments.get? t = l.payments.get? t := by
  cases hp : l.payments.get? tag with
  | some m => rw [redeem_of_some hp]
  | none =>
      rw [redeem_of_none hp]
      exact (Table.get?_insert ..).trans (if_neg hne)

/-- What the ledger knows of a payment is an account of it. -/
def Filed (l : Ledger) (tag : UInt64) : Prop :=
  ∀ n, l.payments.get? tag = some n → l.accounts.tag? n = some tag

/-- A payment that is redeemed is given an account of it. -/
lemma Filed.tag?_redeem (h : l.Filed tag) (allowance : UInt64) (endTime : Int64) :
    (l.redeem tag allowance endTime).1.accounts.tag? (l.redeem tag allowance endTime).2 =
      some tag := by
  cases hp : l.payments.get? tag with
  | some n =>
      rw [redeem_of_some hp]
      exact h n hp
  | none =>
      rw [redeem_of_none hp, Accounts.tag?_add, if_pos rfl]
      rfl

/-- The account that a payment is given is the one that is known from then on. -/
lemma get?_payments_redeem (l : Ledger) (tag allowance : UInt64) (endTime : Int64) :
    (l.redeem tag allowance endTime).1.payments.get? tag =
      some (l.redeem tag allowance endTime).2 := by
  cases hp : l.payments.get? tag with
  | some n => rw [redeem_of_some hp, hp]
  | none =>
      rw [redeem_of_none hp]
      exact (Table.get?_insert ..).trans (if_pos rfl)

lemma rotations_redeem (l : Ledger) (tag allowance : UInt64) (endTime : Int64) :
    (l.redeem tag allowance endTime).1.rotations = l.rotations := by
  rw [redeem]
  split <;> rfl

lemma endTimeOf_eq (l : Ledger) (n : AccountNo) :
    l.endTimeOf n = ((l.accounts.label n).map Prod.snd).getD 0 := by
  rw [endTimeOf, Accounts.label, Option.map_map]
  rfl

/-- A sweep leaves the payments that have not ended. -/
lemma get?_payments_sweep (l : Ledger) (now : Int64) (tag : UInt64) :
    (l.sweep now).payments.get? tag =
      (l.payments.get? tag).filter fun n => decide (now ≤ l.endTimeOf n) :=
  Table.get?_filter ..

/-! ## Rotation cookies -/

/-- A rotation cookie is used if its payment is not known, and known from then on. -/
lemma redeemRotation?_eq_some_iff : l.redeemRotation? tag endTime = some l' ↔
    l.rotations.get? tag = none ∧ l' = { l with rotations := l.rotations.insert tag endTime } := by
  rw [redeemRotation?, Table.contains]
  cases l.rotations.get? tag <;> simp [eq_comm]

/-- A sweep leaves the rotation cookies that have not ended. -/
lemma get?_rotations_sweep (l : Ledger) (now : Int64) (tag : UInt64) :
    (l.sweep now).rotations.get? tag =
      (l.rotations.get? tag).filter fun endTime => decide (now ≤ endTime) :=
  Table.get?_filter ..

end Ledger

end MeteredRelay
