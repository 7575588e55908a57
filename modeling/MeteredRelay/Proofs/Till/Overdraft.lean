import MeteredRelay.Proofs.Till

/-!
# How far an account is overdrawn

An account that a charge overdraws leaves the purse that was charged, and it does not come back,
because an overdrawn account is put into no purse.  So each purse overdraws an account at most once:
by no more than a datagram for each purse that lacks it (`Till.Sound`).  **`Sound.act`** says that
every act keeps this, **`Sound.overdraft_le`** what it means as long as there were few enough purses
for the words to hold their counts.
-/

namespace MeteredRelay

namespace Accounts

/-- Whatever a charge does, a list only loses accounts in front. -/
lemma drawOn_suffix (accounts : Accounts) (ns : List AccountNo) (amount : Int64) :
    (accounts.drawOn ns amount).2.1 <:+ ns := by
  induction ns generalizing accounts amount with
  | nil => exact List.suffix_refl []
  | cons n ns ih =>
      rw [drawOn]
      split
      · dsimp only
        split
        · exact List.suffix_refl _
        · exact (ih _ _).trans (List.suffix_cons n ns)
      · exact List.suffix_refl _

lemma pay_suffix (accounts : Accounts) (ns : List AccountNo) (amount : Int64) :
    (accounts.pay ns amount).2.1 <:+ ns := by
  simp only [pay]
  split
  · exact List.suffix_refl ns
  · exact drawOn_suffix accounts ns amount

end Accounts

namespace Purses

variable {purses : Purses} {n : AccountNo} {purse : PurseNo}

/-- A charge puts no account into a purse. -/
lemma suffix_charge (purses : Purses) (accounts : Accounts) (purse : PurseNo) (amount : Int64)
    (n : PurseNo) : (purses.charge accounts purse amount).1.accounts n <:+ purses.accounts n := by
  show Purses.accounts (purses.modify purse _) n <:+ _
  rw [accounts_modify]
  split
  · rename_i h
    rw [h.1]
    exact Accounts.pay_suffix accounts (purses.accounts n) amount
  · exact List.suffix_refl _

/-- How many purses lack an account. -/
def lacking (purses : Purses) (n : AccountNo) : Nat := purses.toList.countP (n ∉ ·)

lemma lacking_le_size (purses : Purses) (n : AccountNo) : purses.lacking n ≤ purses.size :=
  List.countP_le_length

/-- The number of purses that lack an account, as a sum over the rows. -/
lemma lacking_eq_sum (purses : Purses) (n : AccountNo) :
    purses.lacking n = (purses.toList.map fun ns => if n ∈ ns then 0 else 1).sum := by
  simp [lacking, List.countP_eq_length_filter, List.sum_map_ite]

/-- A purse that changes counts for as much more as it lacks more. -/
lemma lacking_modify (f : List AccountNo → List AccountNo) (hpurse : purse < purses.size) :
    lacking (purses.modify purse f) n + (if n ∈ purses.accounts purse then 0 else 1) =
      purses.lacking n + if n ∈ f (purses.accounts purse) then 0 else 1 := by
  have h := Store.sum_modify purses purse f fun ns => if n ∈ ns then 0 else 1
  rcases Option.isSome_iff_exists.mp (Store.get?_isSome_iff.mpr hpurse) with ⟨ns, hns⟩
  rw [hns, ← lacking_eq_sum, ← lacking_eq_sum] at h
  simpa [Purses.accounts, hns] using h

/-- A purse that gains no account lacks as many as before. -/
lemma lacking_le_modify {f : List AccountNo → List AccountNo}
    (hf : n ∈ f (purses.accounts purse) → n ∈ purses.accounts purse) :
    purses.lacking n ≤ lacking (purses.modify purse f) n := by
  by_cases hpurse : purse < purses.size
  · have h := lacking_modify (n := n) f hpurse
    split at h <;> split at h <;> first | omega | exact absurd (hf ‹_›) ‹_›
  · have hnone := Store.get?_eq_none_of_le (Nat.not_lt.mp hpurse)
    rw [Store.modify_eq_self fun ns hns => by simp [hnone] at hns]

lemma lacking_le_add (purses : Purses) (n : AccountNo) (ns : List AccountNo) :
    purses.lacking n ≤ lacking (purses.add ns) n := by
  simp [lacking, Store.add, Store.toList]

end Purses

namespace Till

variable {t : Till} {n : AccountNo} {purse : PurseNo} {amount : Int64}

/-- No purse holds an account twice.  As long as there were few enough purses, each that lacks an
account overdrew it by a datagram at most. -/
structure Sound (t : Till) : Prop where
  distinct : ∀ purse, (t.purses.accounts purse).Nodup
  bounded : t.purses.size ≤ 2 ^ 46 → ∀ n,
    -(largestCharge * t.purses.lacking n : Int) ≤ t.ledger.accounts.balance n

namespace Sound

/-- As long as there were few enough purses, no account is overdrawn by more than a word can hold
after it is halved. -/
theorem overdraft_le (h : t.Sound) (hsize : t.purses.size ≤ 2 ^ 46) (n : AccountNo) :
    -Accounts.overdraft ≤ t.ledger.accounts.balance n := by
  have hbound := h.bounded hsize n
  have hle := t.purses.lacking_le_size n
  simp only [largestCharge] at hbound
  simp only [Accounts.overdraft]
  omega

/-- What is true of a till in which only the ledger's records changed. -/
lemma of_records (h : t.Sound) {ledger : Ledger}
    (hacc : ∀ n, t.ledger.accounts.balance n ≤ ledger.accounts.balance n) :
    (Till.mk ledger t.purses).Sound :=
  ⟨h.distinct, fun hsize n => Int.le_trans (h.bounded hsize n) (hacc n)⟩

/-- Another purse with accounts that are not in it twice changes nothing. -/
lemma of_add (h : t.Sound) {ns : List AccountNo} (hns : ns.Nodup) :
    (Till.mk t.ledger (t.purses.add ns)).Sound := by
  refine ⟨fun purse => ?_, fun hsize n => ?_⟩
  · rw [Purses.accounts_add]
    split
    · exact hns
    · exact h.distinct purse
  · have hbound := h.bounded (Nat.le_of_succ_le (by simpa using hsize)) n
    have hle := t.purses.lacking_le_add n ns
    simp only [largestCharge] at hbound ⊢
    show -(65536 * Purses.lacking (t.purses.add ns) n : Int) ≤ t.ledger.accounts.balance n
    omega

lemma attach (h : t.Sound) (account : AccountNo) :
    (t.act (.attach purse account)).Sound := by
  refine ⟨fun n => Purses.nodup_attach (h.distinct n), fun hsize n => ?_⟩
  have hsize' : t.purses.size ≤ 2 ^ 46 := by
    rw [← Store.size_modify t.purses purse]
    exact hsize
  have hbound := h.bounded hsize' n
  show _ ≤ t.ledger.accounts.balance n
  by_cases hn : n = account ∧ 0 ≤ t.ledger.accounts.balance n
  · simp only [largestCharge]
    omega
  · -- the account that is put in is another one, or it stays out
    have hle : t.purses.lacking n ≤ (t.act (.attach purse account)).purses.lacking n := by
      refine Purses.lacking_le_modify fun hmem => ?_
      simp only [Accounts.attach] at hmem
      split at hmem
      · exact hmem
      rename_i hlow
      split at hmem
      · exact hmem
      · rcases List.mem_append.mp hmem with hmem | hmem
        · exact hmem
        · have hna := List.mem_singleton.mp hmem
          refine absurd ⟨hna, ?_⟩ hn
          rw [hna]
          exact Int.not_lt.mp fun hneg => hlow (toInt_neg_iff.mpr hneg)
    simp only [largestCharge] at hbound ⊢
    omega

lemma charge (h : t.Sound) (hmod : (Act.charge purse amount).Moderate) :
    (t.act (.charge purse amount)).Sound := by
  rcases hmod with ⟨hpos, hmost⟩
  refine ⟨fun n => ?_, fun hsize n => ?_⟩
  · exact (h.distinct n).sublist (Purses.suffix_charge t.purses _ purse amount n).sublist
  have hsize' : t.purses.size ≤ 2 ^ 46 := by
    rw [← Store.size_modify t.purses purse]
    exact hsize
  have hbound := h.bounded hsize' n
  rcases Purses.charge_spec (h.distinct purse) hpos (Int.lt_of_le_of_lt hmost (by decide))
    fun m _ => h.overdraft_le hsize' m with
    ⟨-, hcharge⟩ | ⟨-, after, spent, last, rest, hdrawn, hcharge⟩
  · simp only [act, hcharge]
    exact hbound
  simp only [act, hcharge]
  have hsplit := hdrawn.split
  have hle : t.purses.lacking n ≤ Purses.lacking (t.purses.set purse (last :: rest)) n :=
    Purses.lacking_le_modify fun hn => hsplit ▸ List.mem_append_right _ hn
  simp only [largestCharge] at hbound hmost ⊢
  by_cases hn : n ∈ spent
  · -- an account that was emptied is in the purse no more
    have hmem : n ∈ t.purses.accounts purse := hsplit ▸ List.mem_append_left _ hn
    have hnot : n ∉ last :: rest := fun hn' =>
      (List.nodup_append.mp (hsplit ▸ h.distinct purse)).2.2 n hn n hn' rfl
    have hmore := Purses.lacking_modify (n := n) (fun _ => last :: rest)
      (Purses.lt_size_of_mem hmem)
    rw [if_pos hmem, if_neg hnot] at hmore
    change Purses.lacking (t.purses.set purse (last :: rest)) n + 0 = _ at hmore
    have := (hdrawn.emptied n hn).1
    omega
  · by_cases hl : n = last
    · have hlast := hdrawn.last
      have hcovers := hdrawn.covers
      rw [← hl] at hlast hcovers
      omega
    · have := Accounts.balance_congr (hdrawn.others n hn hl)
      omega

/-- **Every act keeps a till sound.** -/
theorem act (h : t.Sound) {a : Act} (hmod : a.Moderate) : (t.act a).Sound := by
  cases a with
  | charge purse amount => exact h.charge hmod
  | attach purse account => exact h.attach account
  | start => exact h.of_add List.Pairwise.nil
  | copy purse => exact h.of_add (h.distinct purse)
  | sweep now => exact h.of_records fun _ => Int.le_refl _
  | redeemRotation tag endTime =>
      refine h.of_records fun n => ?_
      rw [accounts_redeemRotation]
  | redeem tag allowance endTime =>
      refine h.of_records fun n => ?_
      rcases redeem_cases t.ledger tag allowance endTime with ⟨-, hl⟩ | ⟨-, hl⟩
      · rw [hl]
      · rw [hl, Accounts.balance_add]
        split
        · rename_i hn
          have hinitial := Accounts.toInt_initial allowance
          rw [hn, Accounts.balance_of_le (Nat.le_refl _)]
          show 0 ≤ (Account.initial allowance).toInt
          omega
        · exact Int.le_refl _

lemma run (h : t.Sound) {acts : List Act} (hmod : ∀ a ∈ acts, a.Moderate) :
    (t.run acts).Sound := by
  induction acts generalizing t with
  | nil => exact h
  | cons a as ih =>
      rcases List.forall_mem_cons.mp hmod with ⟨ha, has⟩
      exact ih (h.act ha) has

end Sound

lemma sound_empty : empty.Sound where
  distinct := fun _ => List.Pairwise.nil
  bounded := fun _ _ => Int.le_refl 0

end Till

end MeteredRelay
