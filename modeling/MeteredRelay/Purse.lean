import MeteredRelay.Ledger

/-!
# Purses

A purse is the list of accounts that the messages of one binding are charged to, in order.  Several
purses may hold one account.  An account that a charge overdraws leaves the purse that was charged,
and stays in the others until they are charged in turn.
-/

namespace MeteredRelay

/-- The number of a purse. -/
abbrev PurseNo := Nat

/-- All purses that were ever made. -/
abbrev Purses := Store (List AccountNo)

namespace Purses

/-- The accounts in a purse. -/
def accounts (purses : Purses) (n : PurseNo) : List AccountNo := (purses.get? n).getD []

/-- The purses with one more, which is empty. -/
def start (purses : Purses) : Purses := purses.add []

/-- The purses with one more, which holds what another holds. -/
def copy (purses : Purses) (n : PurseNo) : Purses := purses.add (purses.accounts n)

/-- The purses with an account put into one, unless it is overdrawn or the purse has its payment. -/
def attach (purses : Purses) (accounts : Accounts) (n : PurseNo) (account : AccountNo) : Purses :=
  purses.modify n (accounts.attach · account)

/-- Charges a purse.  The result tells whether its accounts allowed it. -/
def charge (purses : Purses) (accounts : Accounts) (n : PurseNo) (amount : Int64) :
    Purses × Accounts × Bool :=
  let (accounts, rest, paid) := accounts.pay (purses.accounts n) amount
  (purses.set n rest, accounts, paid)

end Purses

end MeteredRelay
