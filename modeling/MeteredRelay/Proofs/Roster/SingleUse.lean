import MeteredRelay.Proofs.Clock
import MeteredRelay.Proofs.Roster.Books
import MeteredRelay.Proofs.Roster.Index

/-!
# A rotation cookie is used once

The ledger knows a rotation cookie that was used until the last second of it, and forgets it in some
sweep after that.  A cookie that is shown again is then refused because it is known, or because it
is too old: **`isExpired_iff`** says that the two rules meet in one second, as long as the lifetime
of cookies is not the longest that a signed word holds.

`Barred` says of a cookie that one of the two holds.  A rotation bars its cookie, every later act
keeps it barred (`Barred.act`), and a barred cookie rotates nothing; hence **`timesUsed_le_one`**,
whatever sessions were moved to and back, and whatever was forgotten, in between.
-/

namespace MeteredRelay

namespace Roster

variable {env : Environment} {r : Roster} {c : RotationCookie} {now : Moment} {t : Int64}

/-! ## The two rules meet -/

/-- **A cookie is too old exactly after the second in which the ledger may forget it.** -/
theorem isExpired_iff (hlife : env.settings.rotationLifetime.toSeconds < 2 ^ 63 - 1) :
    Rotation.isExpired env now c = true ↔ Rotation.endTime env c < now.unix := by
  have hlifetime : (Rotation.lifetime env).toInt = env.settings.rotationLifetime.toSeconds := by
    rw [Rotation.lifetime, toInt_toSignedSeconds]
    omega
  have hnow := now.unix_nonneg
  have hlate := now.unix.toInt_lt
  have hearly := c.timestamp.le_toInt
  have hstamp := c.timestamp.toInt_lt
  rw [Rotation.isExpired, decide_eq_true_iff, Int64.lt_iff_toInt_lt, Int64.lt_iff_toInt_lt,
    Rotation.endTime, toInt_saturated, toInt_saturated, hlifetime]
  omega

/-! ## What bars a cookie -/

/-- A cookie that rotates nothing from a second on: the ledger knows it, or it is too old. -/
def Barred (env : Environment) (c : RotationCookie) (t : Int64) (r : Roster) : Prop :=
  r.ledger.rotations.get? c.paymentTag = some (Rotation.endTime env c) ∨ Rotation.endTime env c < t

lemma Barred.mono {u : Int64} (h : Barred env c t r) (htu : t ≤ u) : Barred env c u r :=
  h.imp_right fun hlt => Int64.lt_of_lt_of_le hlt htu

/-- Every act keeps a cookie barred: what the ledger forgets is too old from then on. -/
lemma Barred.act (h : Barred env c t r) (hr : r.Sound) (htn : t ≤ now.unix) (a : Act) :
    Barred env c now.unix (r.act env now a) := by
  have hbooks := books_act hr env now a
  rcases h.mono htn with hknown | hold
  · unfold Barred
    generalize (r.act env now a).ledger = ledger at hbooks ⊢
    cases hbooks with
    | idle => exact .inl hknown
    | redeemed => exact .inl (by rw [Ledger.rotations_redeem, hknown])
    | swept =>
        rw [Ledger.get?_rotations_sweep, hknown]
        by_cases hended : now.unix ≤ Rotation.endTime env c
        · exact .inl (by rw [Option.filter_some, if_pos (decide_eq_true hended)])
        · exact .inr (Int64.not_le.mp hended)
    | charged => exact .inl hknown
    | unrotated => exact .inl hknown
    | rotated hc hl =>
        rcases Ledger.redeemRotation?_eq_some_iff.mp hl with ⟨hnew, rfl⟩
        refine .inl ((Table.get?_insert ..).trans ?_)
        rw [if_neg, hknown]
        rintro heq
        rw [heq, hknown] at hnew
        contradiction
  · exact .inr hold

/-! ## Rotations and bars -/

section Rotation

variable {link : LinkNo} {source : PeerId} {message : Bytes}

/-- A cookie that is too old rotates nothing. -/
lemma rotate_ne_ok_of_isExpired (hc : Rotation.openedCookie env message = .ok c)
    (hold : Rotation.isExpired env now c = true) :
    (r.rotate env now link source message).2 ≠ .ok () := by
  unfold rotate
  split
  · simp
  split
  · simp
  · simp [hc, rotateBy, hold]

/-- A rotation that succeeds uses up a cookie that was not known. -/
lemma Rotates.used {r' : Roster} {outcome : Except RelayFault Unit}
    (hr' : Rotates env r link source message r' outcome) (hok : outcome = .ok ())
    (hc : Rotation.openedCookie env message = .ok c) :
    r.ledger.redeemRotation? c.paymentTag (Rotation.endTime env c) = some r'.ledger := by
  cases hr' with
  | refused => contradiction
  | spent ledger hb hc' hold hl hnew =>
      cases hc.symm.trans hc'
      exact hl
  | moved ledger hb hc' hold hl hnew =>
      cases hc.symm.trans hc'
      exact hl

end Rotation

/-- Whether an act is a rotation that succeeds by a cookie. -/
def uses (env : Environment) (c : RotationCookie) (now : Moment) (r : Roster) : Act → Bool
  | .rotate link source message =>
    match Rotation.openedCookie env message, (r.rotate env now link source message).2 with
    | .ok c', .ok _ => decide (c' = c)
    | _, _ => false
  | _ => false

lemma uses_iff {a : Act} : uses env c now r a = true ↔ ∃ link source message,
    a = .rotate link source message ∧ Rotation.openedCookie env message = .ok c ∧
      (r.rotate env now link source message).2 = .ok () := by
  cases a with
  | rotate link source message =>
      simp only [uses, Act.rotate.injEq]
      constructor
      · intro h
        split at h
        · rename_i c' u hc hu
          rw [decide_eq_true_iff] at h
          exact ⟨link, source, message, ⟨rfl, rfl, rfl⟩, h ▸ hc, hu⟩
        · contradiction
      · rintro ⟨_, _, _, ⟨rfl, rfl, rfl⟩, hc, hu⟩
        simp [hc, hu]
  | _ => simp [uses]

/-- A barred cookie rotates nothing. -/
lemma uses_eq_false_of_barred (hlife : env.settings.rotationLifetime.toSeconds < 2 ^ 63 - 1)
    (h : Barred env c now.unix r) (hr : r.Sound) (a : Act) : uses env c now r a = false := by
  rw [Bool.eq_false_iff]
  intro huses
  rcases uses_iff.mp huses with ⟨link, source, message, rfl, hc, hok⟩
  rcases h with hknown | hold
  · have hl := (rotates_rotate hr env now link source message).used hok hc
    have hnew := (Ledger.redeemRotation?_eq_some_iff.mp hl).1
    rw [hknown] at hnew
    contradiction
  · exact rotate_ne_ok_of_isExpired hc ((isExpired_iff hlife).mpr hold) hok

/-- A rotation bars its cookie. -/
lemma barred_of_uses (hr : r.Sound) {a : Act} (h : uses env c now r a = true) :
    Barred env c t (r.act env now a) := by
  rcases uses_iff.mp h with ⟨link, source, message, rfl, hc, hok⟩
  have hl := (rotates_rotate hr env now link source message).used hok hc
  have hledger := (Ledger.redeemRotation?_eq_some_iff.mp hl).2
  refine .inl ?_
  rw [show (r.act env now (.rotate link source message)).ledger = _ from hledger]
  exact (Table.get?_insert ..).trans (if_pos rfl)

/-! ## Runs -/

/-- How often a cookie rotates a session in a run. -/
def timesUsed (env : Environment) (c : RotationCookie) : Roster → List (Moment × Act) → Nat
  | _, [] => 0
  | r, a :: as => (uses env c a.1 r a.2).toNat + timesUsed env c (r.act env a.1 a.2) as

/-- A barred cookie is not used in a run, if the clock does not go back. -/
lemma timesUsed_eq_zero (hlife : env.settings.rotationLifetime.toSeconds < 2 ^ 63 - 1)
    (h : Barred env c t r) (hr : r.Sound) {acts : List (Moment × Act)}
    (hlater : ∀ a ∈ acts, t ≤ a.1.unix)
    (hclock : acts.Pairwise fun a b => a.1.unix ≤ b.1.unix) : timesUsed env c r acts = 0 := by
  induction acts generalizing r t with
  | nil => rfl
  | cons a as ih =>
      rcases List.forall_mem_cons.mp hlater with ⟨hta, -⟩
      rcases List.pairwise_cons.mp hclock with ⟨hle, hclock⟩
      rw [timesUsed, uses_eq_false_of_barred hlife (h.mono hta) hr,
        ih (h.act hr hta a.2) (sound_act a.1 a.2 hr) hle hclock]
      rfl

/-- **A rotation cookie is used once.**  In any run in which the clock does not go back, one cookie
rotates a session at most once, unless cookies are good for the longest time that there is. -/
theorem timesUsed_le_one (env : Environment)
    (hlife : env.settings.rotationLifetime.toSeconds < 2 ^ 63 - 1) (c : RotationCookie)
    (acts : List (Moment × Act)) (hclock : acts.Pairwise fun a b => a.1.unix ≤ b.1.unix) :
    timesUsed env c empty acts ≤ 1 := by
  suffices h : ∀ r : Roster, r.Sound → timesUsed env c r acts ≤ 1 from h empty sound_empty
  induction acts with
  | nil => exact fun _ _ => Nat.zero_le 1
  | cons a as ih =>
      intro r hr
      rcases List.pairwise_cons.mp hclock with ⟨hle, hclock⟩
      rw [timesUsed]
      cases huses : uses env c a.1 r a.2 with
      | false =>
          have := ih hclock (r.act env a.1 a.2) (sound_act a.1 a.2 hr)
          simpa using this
      | true =>
          have := timesUsed_eq_zero hlife (barred_of_uses (t := a.1.unix) hr huses)
            (sound_act a.1 a.2 hr) hle hclock
          rw [this]
          rfl

/-- The cookie that undoes what `onesCookie` does. -/
def zerosCookie : RotationCookie :=
  { onesCookie with
    oldOwnerSecret := onesCookie.newOwnerSecret
    newOwnerSecret := onesCookie.oldOwnerSecret
    paymentTag := 8 }

/-- A session is moved and moved back, and the first cookie is shown again twice: after a sweep in
the last second of it, and after a sweep a second later, which forgets it. -/
def rotatedBackRun : List (Moment × Act) :=
  let moment (second : Int) : Moment := ⟨0, second * 1000000000⟩
  let shown (c : RotationCookie) : Act :=
    .rotate 0 ⟨1⟩ (c.sealed zeroKeyServer.cipher default default)
  [(moment 1700000000, .bind 0 ⟨1⟩ ⟨Rotation.oldId zeroKeyServer onesCookie, 4, true, 0⟩),
    (moment 1700000000, shown onesCookie),
    (moment 1700000001, shown zerosCookie),
    (moment 1700000300, .forgetPayments),
    (moment 1700000300, shown onesCookie),
    (moment 1700000301, .forgetPayments),
    (moment 1700000301, shown onesCookie)]

theorem timesUsed_le_one_rotatedBack :
    zeroKeyServer.settings.rotationLifetime.toSeconds < 2 ^ 63 - 1 ∧
      rotatedBackRun.Pairwise (fun a b => a.1.unix ≤ b.1.unix) ∧
      timesUsed zeroKeyServer onesCookie empty rotatedBackRun ≤ 1 :=
  have hlife : zeroKeyServer.settings.rotationLifetime.toSeconds < 2 ^ 63 - 1 := by decide
  have hclock : rotatedBackRun.Pairwise fun a b => a.1.unix ≤ b.1.unix := by decide +kernel
  ⟨hlife, hclock, timesUsed_le_one zeroKeyServer hlife onesCookie rotatedBackRun hclock⟩

example : timesUsed zeroKeyServer onesCookie empty rotatedBackRun = 1 := by decide +kernel

end Roster

end MeteredRelay
