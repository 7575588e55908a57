import MeteredRelay.Proofs.Roster.Connections
import MeteredRelay.Proofs.Till.Overdraft

/-!
# Rosters of a running relay

A running relay binds only peers on connections that there are, and it charges no more than a
message.  Acts like these (`Act.Fits`) keep a roster in order: the places that speak of bindings
agree, only connections that there are know bindings, and no account is overdrawn further than the
number of purses allows (**`Orderly.act`**).

To the ledger and the purses an act is a run of a till (`till_act`).
-/

namespace MeteredRelay

namespace Roster

variable {env : Environment} {r r' : Roster} {n : SessionNo} {b : Binding} {peer : PeerId}
  {id : SessionId} {link : LinkNo} {links : Nat} {g : Grant} {now : Instant}

/-- The ledger and the purses of a roster. -/
def till (r : Roster) : Till := ⟨r.ledger, r.purses⟩

/-- An act that a relay with so many connections may perform. -/
def Act.Fits (links : Nat) : Act → Prop
  | .bind link _ _ => link < links
  | .charge _ amount => 1 ≤ amount.toInt ∧ amount.toInt ≤ Till.largestCharge
  | _ => True

/-! ## What acts do to the till -/

lemma till_part : (r.part b).till = r.till := by
  simp only [part]
  split <;> rfl

lemma till_forceListing : (r.forceListing n).till = r.till := by
  simp only [forceListing]
  split <;> rfl

/-- A peer that leaves takes its binding along, but its purse stays among the purses. -/
lemma till_remove {p : PeerId} : (r.remove n p).till = r.till := by
  simp only [remove, settle]
  split
  · simp only [forget]
    split <;> rfl
  · exact till_forceListing

/-- To put an account into a purse is an act of the till as it stands. -/
lemma till_attach {purse : PurseNo} {account : AccountNo} :
    (r.attach purse account).till = r.till.act (.attach purse account) := rfl

lemma till_bindNew : (r.bindNew b).till = r.till := by
  unfold bindNew
  dsimp only
  split
  · exact till_remove
  · rfl

lemma till_takeOver {old : Binding} : (r.takeOver old b).till = r.till := by
  unfold takeOver
  dsimp only
  split
  · exact till_remove.trans till_part
  · exact till_part

/-- A session is found or made without a look at the purses. -/
lemma till_openSession (hr : r.Sound) {x : Roster} (hx : r.openSession id = (x, n)) :
    x.till = r.till := by
  rcases openSession_cases hr hx with ⟨-, rfl⟩ | ⟨-, hcreate⟩
  · rfl
  · cases hcreate
    rfl

lemma till_leave : (r.leave link peer).1.till = r.till := by
  simp only [leave]
  split
  · rfl
  · exact till_remove

lemma till_leaveAll : (r.leaveAll link).till = r.till :=
  leaveAll_induction (motive := fun x => x.till = r.till) (fun _ _ => till_leave.trans) rfl

lemma till_kick {source target : PeerId} {banSeconds : UInt32} :
    (r.kick now link source target banSeconds).1.till = r.till := by
  rcases kick_cases r now link source target banSeconds with
    hkick | ⟨held, hkick | ⟨n, last, hkick⟩⟩
  · rw [hkick]
  · rw [hkick, till_leave]
  · rw [hkick, till_leave]
    rfl

/-- A bind puts its account into a purse: the one of the peer's binding, or a new one. -/
lemma Binds.till {outcome : Except RelayFault SessionNo} (hr : r.Sound)
    (hr' : Binds r now link peer g r' outcome) :
    ∃ acts : List Till.Act, (∀ a ∈ acts, a.Moderate) ∧ r'.till = r.till.run acts := by
  cases hr' with
  | banned => exact ⟨[], nofun, rfl⟩
  | mismatched => exact ⟨[], nofun, rfl⟩
  | refreshed => exact ⟨[.attach _ g.account], by simp [Till.Act.Moderate], rfl⟩
  | takenOver hn hban hb hs hl =>
      rename_i n old
      refine ⟨[.copy old.purse, .attach r.purses.size g.account], by simp [Till.Act.Moderate], ?_⟩
      rw [till_attach, till_takeOver]
      rfl
  | welcomed hx hban hp =>
      rename_i x n
      refine ⟨[.start, .attach x.purses.size g.account], by simp [Till.Act.Moderate], ?_⟩
      rw [till_attach, till_bindNew, ← till_openSession hr hx]
      rfl

/-- A rotation uses its cookie up, or does nothing to the till. -/
lemma Rotates.till {source : PeerId} {message : Bytes} {outcome : Except RelayFault Unit}
    (hr' : Rotates env r link source message r' outcome) :
    ∃ acts : List Till.Act, (∀ a ∈ acts, a.Moderate) ∧ r'.till = r.till.run acts := by
  cases hr' with
  | refused => exact ⟨[], nofun, rfl⟩
  | spent ledger hb hc hold hl hnew =>
      rename_i b c
      refine ⟨[.redeemRotation c.paymentTag (Rotation.endTime env c)],
        by simp [Till.Act.Moderate], ?_⟩
      simp [Roster.till, Till.run, Till.act, hl]
  | moved ledger hb hc hold hl hnew =>
      rename_i b c
      refine ⟨[.redeemRotation c.paymentTag (Rotation.endTime env c)],
        by simp [Till.Act.Moderate], ?_⟩
      simp [Roster.till, Till.run, Till.act, hl, rename, changeSession]

/-- **To the till, an act of a roster is a run of its own acts.** -/
theorem till_act (hr : r.Sound) (env : Environment) (now : Moment) {a : Act}
    (hfits : a.Fits links) :
    ∃ acts : List Till.Act, (∀ c ∈ acts, c.Moderate) ∧
      (r.act env now a).till = r.till.run acts := by
  cases a with
  | bind link peer grant => exact (binds_bind hr now.instant link peer grant).till hr
  | leave link peer => exact ⟨[], nofun, till_leave⟩
  | leaveAll link => exact ⟨[], nofun, till_leaveAll⟩
  | kick link source target banSeconds => exact ⟨[], nofun, till_kick⟩
  | rotate link source message => exact (rotates_rotate hr env now link source message).till
  | redeem tag allowance endTime =>
      exact ⟨[.redeem tag allowance endTime], by simp [Till.Act.Moderate], rfl⟩
  | forgetPayments => exact ⟨[.sweep now.unix], by simp [Till.Act.Moderate], rfl⟩
  | charge purse amount => exact ⟨[.charge purse amount], by simpa [Till.Act.Moderate], rfl⟩
  | markListed n spacing => exact ⟨[], nofun, rfl⟩
  | forceListing n => exact ⟨[], nofun, till_forceListing⟩
  | takeForced => exact ⟨[], nofun, rfl⟩

/-! ## Order -/

/-- A roster in order, of a relay with so many connections. -/
structure Orderly (links : Nat) (r : Roster) : Prop where
  sound : r.Sound
  seated : r.Seated links
  till : r.till.Sound

lemma orderly_empty : empty.Orderly 0 := ⟨sound_empty, nofun, Till.sound_empty⟩

namespace Orderly

/-- More connections do not hurt. -/
lemma mono (h : r.Orderly links) {more : Nat} (hle : links ≤ more) : r.Orderly more :=
  { h with seated := h.seated.mono hle }

/-- **Every act of a running relay keeps its roster in order.** -/
theorem act (h : r.Orderly links) (now : Moment) {a : Act} (hfits : a.Fits links) :
    (r.act env now a).Orderly links := by
  have hsound : (r.act env now a).Sound := sound_act now a h.sound
  refine ⟨hsound, ?_, ?_⟩
  · intro seat b hb
    obtain rfl : b.seat = seat := (hsound.joined_iff.mp hb).2
    rcases joined_act h.sound hb with hb | ⟨g, rfl, -⟩
    · exact h.seated b.seat b hb
    · exact hfits
  · rcases till_act h.sound env now hfits with ⟨acts, hmod, htill⟩
    rw [htill]
    exact h.till.run hmod

lemma leaveAll (h : r.Orderly links) (link : LinkNo) : (r.leaveAll link).Orderly links :=
  ⟨sound_leaveAll h.sound, fun seat b hb => h.seated seat b (joined_of_leaveAll hb),
    by rw [till_leaveAll]; exact h.till⟩

end Orderly

end Roster

end MeteredRelay
