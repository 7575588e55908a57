import MeteredRelay.Proofs.Ledger
import MeteredRelay.Proofs.Roster.Orderly

/-!
# What acts write into the ledger

Most acts leave the ledger as it is.  `Books` lists those that do not, and what each writes: a
payment is redeemed, a rotation cookie is used up, what has ended is forgotten, or accounts are
charged.  **`books_act`** says that this is all; what is said of ledgers over runs of a roster is
proved by its cases.
-/

namespace MeteredRelay

namespace Roster

variable {env : Environment} {now : Moment} {r : Roster}

/-- Whether an act has nothing to do with payments. -/
def Act.isIdle : Act → Bool
  | .rotate _ _ _ | .redeem _ _ _ | .forgetPayments | .charge _ _ => false
  | _ => true

/-- Whether an act redeems a payment. -/
def Act.redeems : Act → Bool
  | .redeem _ _ _ => true
  | _ => false

/-- What an act writes into the ledger. -/
inductive Books (env : Environment) (now : Moment) (l : Ledger) : Act → Ledger → Prop where
  /-- The act has nothing to do with payments. -/
  | idle {a : Act} (ha : a.isIdle = true) : Books env now l a l
  /-- A payment is redeemed. -/
  | redeemed (tag allowance : UInt64) (endTime : Int64) :
      Books env now l (.redeem tag allowance endTime) (l.redeem tag allowance endTime).1
  /-- What has ended is forgotten. -/
  | swept : Books env now l .forgetPayments (l.sweep now.unix)
  /-- The accounts of a purse are charged. -/
  | charged (purse : PurseNo) (amount : Int64) (ns : List AccountNo) :
      Books env now l (.charge purse amount) { l with accounts := (l.accounts.pay ns amount).1 }
  /-- A rotation is refused. -/
  | unrotated (link : LinkNo) (source : PeerId) (message : Bytes) :
      Books env now l (.rotate link source message) l
  /-- A rotation uses its cookie up. -/
  | rotated {link : LinkNo} {source : PeerId} {message : Bytes} {c : RotationCookie}
      {ledger : Ledger} (hc : Rotation.openedCookie env message = .ok c)
      (hl : l.redeemRotation? c.paymentTag (Rotation.endTime env c) = some ledger) :
      Books env now l (.rotate link source message) ledger

/-- A bind may put an account into a purse, but it opens none. -/
lemma Binds.ledger {r' : Roster} {t : Instant} {link : LinkNo} {peer : PeerId} {g : Grant}
    {outcome : Except RelayFault SessionNo} (hr : r.Sound)
    (hr' : Binds r t link peer g r' outcome) : r'.ledger = r.ledger := by
  cases hr' with
  | banned => rfl
  | mismatched => rfl
  | refreshed => rfl
  | takenOver => exact congrArg Till.ledger till_takeOver
  | welcomed hx =>
      have hopened := congrArg Till.ledger (till_openSession hr hx)
      exact (congrArg Till.ledger till_bindNew).trans hopened

lemma Rotates.books {r' : Roster} {link : LinkNo} {source : PeerId} {message : Bytes}
    {outcome : Except RelayFault Unit} (hr' : Rotates env r link source message r' outcome) :
    Books env now r.ledger (.rotate link source message) r'.ledger := by
  cases hr' with
  | refused => exact .unrotated link source message
  | spent ledger hb hc hold hl hnew => exact .rotated hc hl
  | moved ledger hb hc hold hl hnew => exact .rotated hc hl

/-- **What acts write into the ledger.** -/
theorem books_act (hr : r.Sound) (env : Environment) (now : Moment) (a : Act) :
    Books env now r.ledger a (r.act env now a).ledger := by
  -- an act that has nothing to do with payments leaves the ledger
  have hidle : ∀ {l' : Ledger}, a.isIdle = true → l' = r.ledger → Books env now r.ledger a l' :=
    fun ha e => e ▸ .idle ha
  cases a with
  | bind link peer grant => exact hidle rfl ((binds_bind hr now.instant link peer grant).ledger hr)
  | leave link peer => exact hidle rfl (congrArg Till.ledger till_leave)
  | leaveAll link => exact hidle rfl (congrArg Till.ledger till_leaveAll)
  | kick link source target banSeconds => exact hidle rfl (congrArg Till.ledger till_kick)
  | rotate link source message => exact (rotates_rotate hr env now link source message).books
  | redeem tag allowance endTime => exact .redeemed tag allowance endTime
  | forgetPayments => exact .swept
  | charge purse amount => exact .charged purse amount (r.purses.accounts purse)
  | markListed n spacing => exact hidle rfl rfl
  | forceListing n => exact hidle rfl (congrArg Till.ledger till_forceListing)
  | takeForced => exact hidle rfl rfl

namespace Books

variable {l l' : Ledger} {a : Act}

/-- Nothing is written on accounts but when a payment is redeemed. -/
lemma label_eq (h : Books env now l a l') (ha : a.redeems = false) (n : AccountNo) :
    l'.accounts.label n = l.accounts.label n := by
  cases h with
  | idle => rfl
  | redeemed => contradiction
  | swept => rfl
  | charged purse amount ns => exact Accounts.label_pay l.accounts ns amount n
  | unrotated => rfl
  | rotated hc hl => rw [(Ledger.redeemRotation?_eq_some_iff.mp hl).2]

/-- Accounts stay as they are but when some are charged. -/
lemma get?_accounts (h : Books env now l a l') (ha : ∀ purse amount, a ≠ .charge purse amount)
    {n : AccountNo} {account : Account} (hn : l.accounts.get? n = some account) :
    l'.accounts.get? n = some account := by
  cases h with
  | idle => exact hn
  | redeemed tag allowance endTime => exact Ledger.get?_accounts_redeem hn tag allowance endTime
  | swept => exact hn
  | charged purse amount => exact absurd rfl (ha purse amount)
  | unrotated => exact hn
  | rotated hc hl => rwa [(Ledger.redeemRotation?_eq_some_iff.mp hl).2]

/-- What is known of payments stays but when one is redeemed or what has ended is forgotten. -/
lemma payments_eq (h : Books env now l a l') (ha : a.redeems = false) (hs : a ≠ .forgetPayments) :
    l'.payments = l.payments := by
  cases h with
  | idle => rfl
  | redeemed => contradiction
  | swept => contradiction
  | charged => rfl
  | unrotated => rfl
  | rotated hc hl => rw [(Ledger.redeemRotation?_eq_some_iff.mp hl).2]

end Books

end Roster

end MeteredRelay
