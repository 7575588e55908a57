import MeteredRelay.Store
import MeteredRelay.Table

/-!
# The ledger of payments

A join cookie names a payment and the bytes it allows.  The first cookie that names a payment opens
an account with these bytes; every later one shares what is left.  Messages are charged to
accounts, which may be overdrawn, because several peers draw on one.  A rotation cookie is good
once, so the ledger remembers which were used.  Both are forgotten when their time has passed;
forgetting a payment does not close its account, since peers may still draw on it.
-/

namespace MeteredRelay

/-- What is left of a payment. -/
structure Account where
  /-- The payment. -/
  tag : UInt64
  /-- The last second, in Unix time, in which the ledger has to know the payment. -/
  endTime : Int64
  /-- The bytes left; negative if overdrawn. -/
  remaining : Int64
deriving DecidableEq, Inhabited

/-- The number of an account. -/
abbrev AccountNo := Nat

namespace Account

/-- The most bytes that a signed word counts. -/
def maxBytes : Nat := 0x7fffffffffffffff

/-- The bytes that an account begins with: those allowed, as far as a signed word holds them. -/
def initial (allowance : UInt64) : Int64 := Int64.ofNat (min allowance.toNat maxBytes)

/-- A new account. -/
def start (tag allowance : UInt64) (endTime : Int64) : Account := ⟨tag, endTime, initial allowance⟩

/-- The account after a charge. -/
def charged (a : Account) (n : Int64) : Account := { a with remaining := a.remaining - n }

/-- The bytes left that may be drawn on. -/
def credit (a : Account) : Nat := a.remaining.toInt.toNat

end Account

/-- All accounts that were ever opened. -/
abbrev Accounts := Store Account

namespace Accounts

/-- The bytes left in an account. -/
def remaining (accounts : Accounts) (n : AccountNo) : Int64 :=
  ((accounts.get? n).map (·.remaining)).getD 0

/-- The payment behind an account. -/
def tag? (accounts : Accounts) (n : AccountNo) : Option UInt64 := (accounts.get? n).map (·.tag)

/-- The accounts after one was charged. -/
def charge (accounts : Accounts) (n : AccountNo) (amount : Int64) : Accounts :=
  accounts.modify n (·.charged amount)

/-- The bytes that several accounts allow together, as far as a signed word holds them.  What one of
them is overdrawn by does not lessen the others. -/
def creditOf (accounts : Accounts) (ns : List AccountNo) : Nat :=
  ns.foldl (fun total n => min (total + (accounts.remaining n).toInt.toNat) Account.maxBytes) 0

/-- Charges a list of accounts in order.  An account that a charge overdraws leaves the list, and
what it is overdrawn by is charged to the next, but never more than was to be charged: what it was
overdrawn by before is not charged again.  The result is the accounts, the list and whether
everything was charged. -/
def drawOn (accounts : Accounts) : List AccountNo → Int64 → Accounts × List AccountNo × Bool
  | [], _ => (accounts, [], false)
  | n :: rest, amount =>
    if 0 < amount then
      let left := accounts.remaining n - amount
      if 0 ≤ left then (accounts.charge n amount, n :: rest, true)
      else drawOn (accounts.charge n amount) rest (min (-left) amount)
    else (accounts, n :: rest, false)

/-- Charges a list of accounts if they allow it together, and leaves all as it is if not. -/
def pay (accounts : Accounts) (ns : List AccountNo) (amount : Int64) :
    Accounts × List AccountNo × Bool :=
  if (accounts.creditOf ns : Int) < amount.toInt then (accounts, ns, false)
  else accounts.drawOn ns amount

/-- A list of accounts with one more, unless that is overdrawn or its payment is in the list. -/
def attach (accounts : Accounts) (ns : List AccountNo) (n : AccountNo) : List AccountNo :=
  if accounts.remaining n < 0 then ns
  else if ns.any fun m => accounts.tag? m == accounts.tag? n then ns
  else ns ++ [n]

end Accounts

/-- The accounts, the payments that cookies may still name, and the used rotation cookies. -/
structure Ledger where
  accounts : Accounts
  /-- The account of each payment that is not forgotten. -/
  payments : Table UInt64 AccountNo
  /-- The used rotation cookies, with the last second in which each has to be known. -/
  rotations : Table UInt64 Int64
deriving Inhabited

namespace Ledger

/-- Nothing paid yet. -/
def empty : Ledger := ⟨.empty, .empty, .empty⟩

/-- The account of a payment, opened if the ledger does not know it. -/
def redeem (l : Ledger) (tag allowance : UInt64) (endTime : Int64) : Ledger × AccountNo :=
  match l.payments.get? tag with
  | some n => (l, n)
  | none =>
    ({ l with
        accounts := l.accounts.add (.start tag allowance endTime)
        payments := l.payments.insert tag l.accounts.size },
      l.accounts.size)

/-- The ledger after a rotation cookie was used, unless it was used before. -/
def redeemRotation? (l : Ledger) (tag : UInt64) (endTime : Int64) : Option Ledger :=
  if l.rotations.contains tag then none
  else some { l with rotations := l.rotations.insert tag endTime }

/-- The last second of an account. -/
def endTimeOf (l : Ledger) (n : AccountNo) : Int64 :=
  ((l.accounts.get? n).map (·.endTime)).getD 0

/-- The ledger without what ended before `now`. -/
def sweep (l : Ledger) (now : Int64) : Ledger where
  accounts := l.accounts
  payments := l.payments.filter fun _ n => now ≤ l.endTimeOf n
  rotations := l.rotations.filter fun _ endTime => now ≤ endTime

/-- How many payments and rotation cookies a sweep forgets. -/
def forgotten (l : Ledger) (now : Int64) : Nat × Nat :=
  (l.payments.size - (l.sweep now).payments.size, l.rotations.size - (l.sweep now).rotations.size)

/-- The payments that are not forgotten. -/
def size (l : Ledger) : Nat := l.payments.size

end Ledger

end MeteredRelay
