import MeteredRelay.Proofs.Roster.Books
import MeteredRelay.Proofs.Roster.Index
import MeteredRelay.Roster.Admission

/-!
# How often a payment is credited

Where the server asks for cookies, the first cookie that is accepted for a payment opens an account
with the bytes that it allows.  The ledger knows the payment until the last second of that first
cookie, and forgets it in some sweep after that.  A cookie for the same payment that is good for
longer is then taken for the first one, and opens another account.

`Visit` is what may happen on such a server.  `Lapsed` and `Recredited` say by the visits alone when
a payment is forgotten and when a cookie comes for it after that.  **`creditedOnce_iff`** says that
a payment has more than one account exactly in the second case; that otherwise all its cookies are
granted one account; and that no payment is credited again whose cookies are good for no longer
than the first of them.  The proof follows a payment through four stages (`Stage`): not shown yet,
known, forgotten, and credited again.
-/

namespace MeteredRelay

namespace Roster

/-! ## Visits -/

/-- What may happen to a roster where payments are redeemed by those who ask to be admitted. -/
inductive Visit where
  /-- A peer shows a message for a join cookie.  `draw` is its payment if no cookies are asked
  for. -/
  | join (draw : UInt64) (peer : PeerId) (message : Bytes)
  /-- Anything else. -/
  | act (a : Act) (h : a.redeems = false)

/-- What has ended is forgotten. -/
def Visit.sweep : Visit := .act .forgetPayments rfl

/-- The roster after a visit. -/
def visit (env : Environment) (now : Moment) (r : Roster) : Visit → Roster
  | .join draw peer message => (r.grant env now draw peer message).1
  | .act a _ => r.act env now a

/-- The roster after a run of visits. -/
def visits (env : Environment) (r : Roster) (vs : List (Moment × Visit)) : Roster :=
  vs.foldl (fun r v => r.visit env v.1 v.2) r

/-- The join cookie that a peer is admitted with in a visit. -/
def admitted? (env : Environment) : Moment × Visit → Option JoinCookie
  | (now, .join _ peer message) =>
    env.settings.cookieKeys.bind fun keys =>
      (Admission.checkedCookie env.cipher keys now peer message).toOption
  | (_, .act _ _) => none

/-- The join cookie that is accepted in a visit, if it is for the payment that is spoken of. -/
def accepted? (env : Environment) (tag : UInt64) (v : Moment × Visit) : Option JoinCookie :=
  (admitted? env v).filter fun c => decide (c.paymentTag = tag)

/-- The first join cookie that is accepted for a payment. -/
def first? (env : Environment) (tag : UInt64) (vs : List (Moment × Visit)) : Option JoinCookie :=
  vs.findSome? (accepted? env tag)

/-- A sweep comes after the last second of the first cookie that is accepted for a payment. -/
def Lapsed (env : Environment) (tag : UInt64) (vs : List (Moment × Visit)) : Prop :=
  ∃ as v, as ++ [v] <+: vs ∧ v.2 = .sweep ∧ ∃ c ∈ first? env tag as, c.endTime < v.1.unix

/-- A cookie is accepted for a payment after such a sweep. -/
def Recredited (env : Environment) (tag : UInt64) (vs : List (Moment × Visit)) : Prop :=
  ∃ as v, as ++ [v] <+: vs ∧ Lapsed env tag as ∧ (accepted? env tag v).isSome

/-- No two accounts are of one payment. -/
def CreditedOnce (r : Roster) (tag : UInt64) : Prop :=
  ∀ n m, r.ledger.accounts.tag? n = some tag → r.ledger.accounts.tag? m = some tag → n = m

variable {env : Environment} {now : Moment} {r : Roster} {tag : UInt64} {c : JoinCookie}
  {vs : List (Moment × Visit)} {v : Moment × Visit} {l l' : Ledger} {n m : AccountNo}

lemma visits_append (r : Roster) (vs ws : List (Moment × Visit)) :
    r.visits env (vs ++ ws) = (r.visits env vs).visits env ws :=
  List.foldl_append

lemma visits_concat : r.visits env (vs ++ [v]) = (r.visits env vs).visit env v.1 v.2 :=
  visits_append r vs [v]

/-! ## One visit more -/

/-- What holds of some visit and those before it, with one visit more. -/
lemma exists_prefix_concat {α : Type} {as : List α} {a : α} {p : List α → α → Prop} :
    (∃ bs b, bs ++ [b] <+: as ++ [a] ∧ p bs b) ↔ (∃ bs b, bs ++ [b] <+: as ∧ p bs b) ∨ p as a := by
  constructor
  · rintro ⟨bs, b, hprefix, hp⟩
    rcases List.prefix_concat_iff.mp hprefix with heq | hprefix
    · rcases List.append_inj' heq rfl with ⟨rfl, hb⟩
      exact .inr (List.singleton_inj.mp hb ▸ hp)
    · exact .inl ⟨bs, b, hprefix, hp⟩
  · rintro (⟨bs, b, hprefix, hp⟩ | hp)
    · exact ⟨bs, b, hprefix.trans (List.prefix_append as [a]), hp⟩
    · exact ⟨as, a, List.prefix_rfl, hp⟩

lemma lapsed_concat : Lapsed env tag (vs ++ [v]) ↔
    Lapsed env tag vs ∨ v.2 = .sweep ∧ ∃ c ∈ first? env tag vs, c.endTime < v.1.unix :=
  exists_prefix_concat

lemma recredited_concat : Recredited env tag (vs ++ [v]) ↔
    Recredited env tag vs ∨ Lapsed env tag vs ∧ (accepted? env tag v).isSome :=
  exists_prefix_concat

lemma first?_concat :
    first? env tag (vs ++ [v]) = (first? env tag vs).or (accepted? env tag v) := by
  rw [first?, List.findSome?_append, List.findSome?_singleton, first?]

lemma Recredited.lapsed (h : Recredited env tag vs) : Lapsed env tag vs := by
  rcases h with ⟨as, v, hprefix, ⟨bs, w, hbefore, hw⟩, -⟩
  exact ⟨bs, w, hbefore.trans ((List.prefix_append as [v]).trans hprefix), hw⟩

/-- Nobody is admitted in a sweep. -/
lemma accepted?_of_sweep (h : v.2 = .sweep) : accepted? env tag v = none := by
  rcases v with ⟨now, _⟩
  cases h
  rfl

/-! ## What a visit does to the books -/

/-- A peer that shows a good cookie is granted the account of its payment, and one that shows
another message nothing. -/
lemma grant_eq (hkey : env.settings.cookieKey.isSome) (now : Moment) (r : Roster) (draw : UInt64)
    (peer : PeerId) (message : Bytes) : match admitted? env (now, .join draw peer message) with
      | none => (r.grant env now draw peer message).1 = r
      | some c => (r.grant env now draw peer message).1 =
          { r with ledger := (r.ledger.redeem c.paymentTag c.allowance c.endTime).1 } ∧
          ∃ g, (r.grant env now draw peer message).2 = .ok g ∧
            g.account = (r.ledger.redeem c.paymentTag c.allowance c.endTime).2 := by
  rcases Option.isSome_iff_exists.mp hkey with ⟨key, hkey⟩
  have hkeys : env.settings.cookieKeys = some ⟨key, env.settings.retiredKeys⟩ := by
    rw [Settings.cookieKeys, hkey]
    rfl
  simp only [admitted?, grant, hkeys, Option.bind_some]
  cases Admission.checkedCookie env.cipher ⟨key, env.settings.retiredKeys⟩ now peer message with
  | error e => rfl
  | ok c => exact ⟨rfl, _, rfl, rfl⟩

lemma sound_visit (hr : r.Sound) (v : Moment × Visit) : (r.visit env v.1 v.2).Sound := by
  rcases v with ⟨now, ⟨draw, peer, message⟩ | ⟨a, ha⟩⟩
  · rw [visit]
    rcases grant_eq_act env now draw r peer message with heq | ⟨_, _, _, heq⟩
    · rwa [heq]
    · rw [heq]
      exact sound_act now _ hr
  · exact sound_act now a hr

lemma sound_visits (hr : r.Sound) (vs : List (Moment × Visit)) : (r.visits env vs).Sound := by
  induction vs using List.reverseRecOn with
  | nil => exact hr
  | append_singleton vs v ih =>
      rw [visits_concat]
      exact sound_visit ih v

/-- What a visit does to the books of one payment. -/
inductive Takes (env : Environment) (tag : UInt64) (v : Moment × Visit) (l : Ledger) :
    Ledger → Prop where
  /-- The visit has nothing to do with the payment. -/
  | kept {l' : Ledger} (ha : accepted? env tag v = none) (hs : v.2 ≠ .sweep)
      (hp : l'.payments.get? tag = l.payments.get? tag)
      (hl : ∀ n e, l'.accounts.label n = some (tag, e) ↔ l.accounts.label n = some (tag, e)) :
      Takes env tag v l l'
  /-- What has ended is forgotten. -/
  | swept (hs : v.2 = .sweep) : Takes env tag v l (l.sweep v.1.unix)
  /-- A cookie is accepted for the payment. -/
  | redeemed {c : JoinCookie} (hc : accepted? env tag v = some c) :
      Takes env tag v l (l.redeem tag c.allowance c.endTime).1

lemma takes_visit (hkey : env.settings.cookieKey.isSome) (hr : r.Sound) (v : Moment × Visit) :
    Takes env tag v r.ledger (r.visit env v.1 v.2).ledger := by
  rcases v with ⟨now, ⟨draw, peer, message⟩ | ⟨a, ha⟩⟩
  · have h := grant_eq hkey now r draw peer message
    split at h <;> rename_i hadmitted
    · refine .kept ?_ (by simp [Visit.sweep]) ?_ ?_
      · rw [accepted?, hadmitted, Option.filter_none]
      all_goals simp [visit, h]
    · rename_i c
      by_cases hc : c.paymentTag = tag
      · subst hc
        rw [visit, h.1]
        refine .redeemed ?_
        rw [accepted?, hadmitted, Option.filter_some, if_pos (decide_eq_true rfl)]
      · rw [visit, h.1]
        refine .kept ?_ (by simp [Visit.sweep]) ?_ ?_
        · simp [accepted?, hadmitted, hc]
        · exact Ledger.get?_payments_redeem_of_ne hc c.allowance
        · exact fun n e => Ledger.label_redeem_iff_of_ne hc c.allowance
  · have hbooks := books_act hr env now a
    by_cases hs : a = .forgetPayments
    · subst hs
      exact .swept rfl
    · refine .kept rfl (fun h => hs (Visit.act.inj h)) ?_ ?_
      · rw [visit, hbooks.payments_eq ha hs]
      · intro n e
        rw [visit, hbooks.label_eq ha]

/-- An account stays with its payment. -/
lemma Takes.tag?_of_tag? (h : Takes env tag v l l') (hn : l.accounts.tag? n = some tag) :
    l'.accounts.tag? n = some tag := by
  rcases Accounts.tag?_eq_some_iff.mp hn with ⟨e, he⟩
  refine Accounts.tag?_eq_some_iff.mpr ⟨e, ?_⟩
  cases h with
  | kept ha hs hp hl => exact (hl n e).mpr he
  | swept => exact he
  | redeemed => exact Ledger.label_redeem_of_some he _

/-- What the ledger knows of a payment stays an account of it. -/
lemma Takes.filed (h : Takes env tag v l l') (hl : l.Filed tag) : l'.Filed tag := by
  intro n hn
  cases h with
  | kept ha hs hp hl' =>
      rw [hp] at hn
      exact (Takes.kept ha hs hp hl').tag?_of_tag? (hl n hn)
  | swept =>
      rw [Ledger.get?_payments_sweep] at hn
      exact hl n (Option.filter_eq_some_iff.mp hn).1
  | @redeemed c hc =>
      rw [Ledger.get?_payments_redeem] at hn
      rw [← Option.some.inj hn]
      exact hl.tag?_redeem c.allowance c.endTime

/-- A payment gets no account but by a cookie. -/
lemma Takes.tag?_iff (h : Takes env tag v l l') (ha : accepted? env tag v = none) :
    l'.accounts.tag? n = some tag ↔ l.accounts.tag? n = some tag := by
  cases h with
  | kept ha hs hp hl =>
      rw [Accounts.tag?_eq_some_iff, Accounts.tag?_eq_some_iff]
      exact exists_congr fun e => hl n e
  | swept => rfl
  | redeemed hc => rw [hc] at ha; contradiction

/-! ## The stages of a payment -/

/-- How far a payment has come. -/
inductive Stage (env : Environment) (tag : UInt64) (vs : List (Moment × Visit)) (l : Ledger) :
    Prop where
  /-- No cookie was accepted for it. -/
  | unseen (hf : first? env tag vs = none) (hlap : ¬ Lapsed env tag vs)
      (hp : l.payments.get? tag = none) (honly : ∀ m, l.accounts.tag? m ≠ some tag)
  /-- The ledger knows it, and for how long. -/
  | known (c : JoinCookie) (n : AccountNo) (hf : first? env tag vs = some c)
      (hlap : ¬ Lapsed env tag vs) (hp : l.payments.get? tag = some n)
      (hn : l.accounts.label n = some (tag, c.endTime))
      (honly : ∀ m, l.accounts.tag? m = some tag → m = n)
  /-- The ledger has forgotten it. -/
  | forgotten (n : AccountNo) (hlap : Lapsed env tag vs) (hre : ¬ Recredited env tag vs)
      (hp : l.payments.get? tag = none) (hn : l.accounts.tag? n = some tag)
      (honly : ∀ m, l.accounts.tag? m = some tag → m = n)
  /-- It was credited again. -/
  | recredited (n m : AccountNo) (hre : Recredited env tag vs) (hne : n ≠ m)
      (hn : l.accounts.tag? n = some tag) (hm : l.accounts.tag? m = some tag)

lemma stage_nil : Stage env tag [] .empty := by
  refine .unseen rfl ?_ rfl fun m => nofun
  rintro ⟨as, v, hprefix, -⟩
  exact absurd (List.prefix_nil.mp hprefix) (by simp)

/-- A visit that has nothing to do with a payment leaves it where it is. -/
lemma Stage.kept (hst : Stage env tag vs l) (ha : accepted? env tag v = none) (hs : v.2 ≠ .sweep)
    (hp : l'.payments.get? tag = l.payments.get? tag)
    (hl : ∀ n e, l'.accounts.label n = some (tag, e) ↔ l.accounts.label n = some (tag, e)) :
    Stage env tag (vs ++ [v]) l' := by
  have htag : ∀ {m}, l'.accounts.tag? m = some tag ↔ l.accounts.tag? m = some tag :=
    (Takes.kept ha hs hp hl).tag?_iff ha
  have hlap' : Lapsed env tag (vs ++ [v]) ↔ Lapsed env tag vs := by simp [lapsed_concat, hs]
  have hre' : Recredited env tag (vs ++ [v]) ↔ Recredited env tag vs := by
    simp [recredited_concat, ha]
  have hf' : first? env tag (vs ++ [v]) = first? env tag vs := by
    rw [first?_concat, ha, Option.or_none]
  cases hst with
  | unseen hf hlap hnone honly =>
      exact .unseen (hf'.trans hf) (mt hlap'.mp hlap) (hp.trans hnone)
        fun m hm => honly m (htag.mp hm)
  | known c n hf hlap hsome hn honly =>
      exact .known c n (hf'.trans hf) (mt hlap'.mp hlap) (hp.trans hsome) ((hl n _).mpr hn)
        fun m hm => honly m (htag.mp hm)
  | forgotten n hlap hre hnone hn honly =>
      exact .forgotten n (hlap'.mpr hlap) (mt hre'.mp hre) (hp.trans hnone) (htag.mpr hn)
        fun m hm => honly m (htag.mp hm)
  | recredited n m hre hne hn hm =>
      exact .recredited n m (hre'.mpr hre) hne (htag.mpr hn) (htag.mpr hm)

/-- In a sweep the ledger forgets a payment after the last second of its first cookie. -/
lemma Stage.swept (hst : Stage env tag vs l) (hs : v.2 = .sweep) :
    Stage env tag (vs ++ [v]) (l.sweep v.1.unix) := by
  have ha : accepted? env tag v = none := accepted?_of_sweep hs
  have hre' : Recredited env tag (vs ++ [v]) ↔ Recredited env tag vs := by
    simp [recredited_concat, ha]
  have hf' : first? env tag (vs ++ [v]) = first? env tag vs := by
    rw [first?_concat, ha, Option.or_none]
  have hp' := Ledger.get?_payments_sweep l v.1.unix tag
  cases hst with
  | unseen hf hlap hp honly =>
      refine .unseen (hf'.trans hf) ?_ ?_ honly
      · simp [lapsed_concat, hlap, hf]
      · rw [hp', hp, Option.filter_none]
  | known c n hf hlap hp hn honly =>
      -- the account bears the last second of the first cookie, by which the sweep goes
      have hend : l.endTimeOf n = c.endTime := by
        rw [Ledger.endTimeOf_eq, hn]
        rfl
      rw [hp, Option.filter_some, hend] at hp'
      by_cases hended : v.1.unix ≤ c.endTime
      · refine .known c n (hf'.trans hf) ?_ ?_ hn honly
        · simp [lapsed_concat, hlap, hf, Int64.not_lt.mpr hended]
        · rw [hp', if_pos (decide_eq_true hended)]
      · refine .forgotten n ?_ ?_ ?_ (Accounts.tag?_eq_some_iff.mpr ⟨_, hn⟩) honly
        · exact lapsed_concat.mpr (.inr ⟨hs, c, hf, Int64.not_le.mp hended⟩)
        · exact fun hre => hlap (hre'.mp hre).lapsed
        · rw [hp', if_neg (by simpa using hended)]
  | forgotten n hlap hre hp hn honly =>
      refine .forgotten n (lapsed_concat.mpr (.inl hlap)) (mt hre'.mp hre) ?_ hn honly
      rw [hp', hp, Option.filter_none]
  | recredited n m hre hne hn hm => exact .recredited n m (hre'.mpr hre) hne hn hm

/-- A cookie is the first for its payment, shares what the first was given, or comes after the
payment was forgotten. -/
lemma Stage.redeemed (hst : Stage env tag vs l) (hc : accepted? env tag v = some c) :
    Stage env tag (vs ++ [v]) (l.redeem tag c.allowance c.endTime).1 := by
  have hs : v.2 ≠ .sweep := by
    intro hs
    rw [accepted?_of_sweep hs] at hc
    contradiction
  have hlap' : Lapsed env tag (vs ++ [v]) ↔ Lapsed env tag vs := by simp [lapsed_concat, hs]
  have hstays : ∀ {m}, l.accounts.tag? m = some tag →
      (l.redeem tag c.allowance c.endTime).1.accounts.tag? m = some tag :=
    (Takes.redeemed hc).tag?_of_tag?
  cases hst with
  | unseen hf hlap hp honly =>
      rw [Ledger.redeem_of_none hp]
      refine .known c l.accounts.size ?_ (mt hlap'.mp hlap) ?_ ?_ fun m hm => ?_
      · rw [first?_concat, hf, hc]
        rfl
      · exact (Table.get?_insert ..).trans (if_pos rfl)
      · rw [Accounts.label_add, if_pos rfl]
        rfl
      · by_contra hne
        rw [Accounts.tag?_add, if_neg hne] at hm
        exact honly m hm
  | known c' n hf hlap hp hn honly =>
      rw [Ledger.redeem_of_some hp]
      refine .known c' n ?_ (mt hlap'.mp hlap) hp hn honly
      rw [first?_concat, hf]
      rfl
  | forgotten n hlap hre hp hn honly =>
      have hre' : Recredited env tag (vs ++ [v]) := by simp [recredited_concat, hlap, hc]
      have hn' := hstays hn
      rw [Ledger.redeem_of_none hp] at hn' ⊢
      refine .recredited n l.accounts.size hre' ?_ hn' ?_
      · rintro rfl
        rw [Accounts.tag?_eq, Accounts.label_of_le (Nat.le_refl _)] at hn
        contradiction
      · rw [Accounts.tag?_add, if_pos rfl]
        rfl
  | recredited n m hre hne hn hm =>
      exact .recredited n m (recredited_concat.mpr (.inl hre)) hne (hstays hn) (hstays hm)

/-- A visit moves a payment from a stage to a stage. -/
lemma Stage.concat (hst : Stage env tag vs l) (h : Takes env tag v l l') :
    Stage env tag (vs ++ [v]) l' := by
  cases h with
  | kept ha hs hp hl => exact hst.kept ha hs hp hl
  | swept hs => exact hst.swept hs
  | redeemed hc => exact hst.redeemed hc

/-! ## Runs -/

section Runs

variable (hkey : env.settings.cookieKey.isSome)
include hkey

lemma stage_visits (tag : UInt64) (vs : List (Moment × Visit)) :
    Stage env tag vs (empty.visits env vs).ledger := by
  induction vs using List.reverseRecOn with
  | nil => exact stage_nil
  | append_singleton vs v ih =>
      rw [visits_concat]
      exact ih.concat (takes_visit hkey (sound_visits sound_empty vs) v)

lemma filed_visits (tag : UInt64) (vs : List (Moment × Visit)) :
    (empty.visits env vs).ledger.Filed tag := by
  induction vs using List.reverseRecOn with
  | nil => exact fun n => nofun
  | append_singleton vs v ih =>
      rw [visits_concat]
      exact (takes_visit hkey (sound_visits sound_empty vs) v).filed ih

/-- An account stays with its payment in a run. -/
lemma tag?_visits (hr : r.Sound) (hn : r.ledger.accounts.tag? n = some tag)
    (vs : List (Moment × Visit)) : (r.visits env vs).ledger.accounts.tag? n = some tag := by
  induction vs using List.reverseRecOn with
  | nil => exact hn
  | append_singleton vs v ih =>
      rw [visits_concat]
      exact (takes_visit hkey (sound_visits hr vs) v).tag?_of_tag? ih

/-- A cookie that is accepted for a payment is granted an account that is of this payment to the end
of the run. -/
lemma grant_account {as : List (Moment × Visit)} {draw : UInt64} {peer : PeerId} {message : Bytes}
    (hvs : as ++ [(now, .join draw peer message)] <+: vs)
    (ha : (accepted? env tag (now, .join draw peer message)).isSome) :
    ∃ g, ((empty.visits env as).grant env now draw peer message).2 = .ok g ∧
      (empty.visits env vs).ledger.accounts.tag? g.account = some tag := by
  rcases hvs with ⟨bs, rfl⟩
  rcases Option.isSome_iff_exists.mp ha with ⟨c, hc⟩
  rcases Option.filter_eq_some_iff.mp hc with ⟨hadmitted, htag⟩
  obtain rfl := of_decide_eq_true htag
  have hgrant := grant_eq hkey now (empty.visits env as) draw peer message
  rw [hadmitted] at hgrant
  rcases hgrant with ⟨hafter, g, hg, haccount⟩
  refine ⟨g, hg, ?_⟩
  rw [visits_append]
  refine tag?_visits hkey (sound_visits sound_empty _) ?_ bs
  rw [visits_concat, visit, hafter, haccount]
  exact (filed_visits hkey c.paymentTag as).tag?_redeem c.allowance c.endTime

end Runs

/-- A cookie that is accepted has not ended. -/
lemma le_endTime_of_accepted? (h : accepted? env tag v = some c) : v.1.unix ≤ c.endTime := by
  rcases v with ⟨now, ⟨draw, peer, message⟩ | ⟨a, ha⟩⟩
  · have hadmitted := (Option.filter_eq_some_iff.mp h).1
    simp only [admitted?, Option.bind_eq_some_iff] at hadmitted
    rcases hadmitted with ⟨keys, -, hadmitted⟩
    unfold Admission.checkedCookie at hadmitted
    split at hadmitted
    · contradiction
    split at hadmitted
    · contradiction
    split at hadmitted
    · contradiction
    · rename_i hgood
      obtain rfl := Option.some.inj hadmitted
      exact Int64.not_lt.mp hgood
  · contradiction

/-- A payment does not lapse before a cookie if none is good for longer than the first. -/
lemma not_recredited (hclock : vs.Pairwise fun v w => v.1.unix ≤ w.1.unix)
    (hends : ∀ v ∈ vs, ∀ c ∈ accepted? env tag v, ∀ f ∈ first? env tag vs,
      c.endTime ≤ f.endTime) : ¬ Recredited env tag vs := by
  rintro ⟨as, v, hvs, ⟨bs, w, has, -, f, hf, hlt⟩, hsome⟩
  rcases Option.isSome_iff_exists.mp hsome with ⟨c, hc⟩
  have hfirst : first? env tag vs = some f := by
    rcases has.trans ((List.prefix_append as [v]).trans hvs) with ⟨rest, rfl⟩
    simp only [first?, List.append_assoc, List.findSome?_append]
    rw [first?] at hf
    rw [hf]
    rfl
  have hend : c.endTime ≤ f.endTime := hends v (hvs.subset (by simp)) c hc f hfirst
  have hle : w.1.unix ≤ v.1.unix :=
    (List.pairwise_append.mp (hclock.sublist hvs.sublist)).2.2 w (has.subset (by simp)) v (by simp)
  have hgood := le_endTime_of_accepted? hc
  exact Int64.lt_irrefl
    (Int64.lt_of_lt_of_le hlt (Int64.le_trans hle (Int64.le_trans hgood hend)))

/-- **When a payment is credited again.**  Where the server asks for cookies, a payment has one
account at most exactly if no cookie comes for it after a sweep that comes after the last second of
the first.  Then all cookies that are accepted for it are granted the same account.  It is so in
every run in which the clock does not go back and no cookie for the payment is good for longer than
the first. -/
theorem creditedOnce_iff (env : Environment) (hkey : env.settings.cookieKey.isSome) (tag : UInt64)
    (vs : List (Moment × Visit)) :
    ((empty.visits env vs).CreditedOnce tag ↔ ¬ Recredited env tag vs) ∧
    (¬ Recredited env tag vs → ∃ n, ∀ as now draw peer message,
      as ++ [(now, .join draw peer message)] <+: vs →
      (accepted? env tag (now, .join draw peer message)).isSome →
        ∃ g, ((empty.visits env as).grant env now draw peer message).2 = .ok g ∧ g.account = n) ∧
    ((vs.Pairwise fun v w => v.1.unix ≤ w.1.unix) →
      (∀ v ∈ vs, ∀ c ∈ accepted? env tag v, ∀ f ∈ first? env tag vs, c.endTime ≤ f.endTime) →
        ¬ Recredited env tag vs) := by
  have honce : (empty.visits env vs).CreditedOnce tag ↔ ¬ Recredited env tag vs := by
    cases stage_visits hkey tag vs with
    | unseen hf hlap hp honly =>
        exact iff_of_true (fun n m hn => absurd hn (honly n)) fun h => hlap h.lapsed
    | known c n hf hlap hp hn honly =>
        exact iff_of_true (fun k m hk hm => (honly k hk).trans (honly m hm).symm)
          fun h => hlap h.lapsed
    | forgotten n hlap hre hp hn honly =>
        exact iff_of_true (fun k m hk hm => (honly k hk).trans (honly m hm).symm) hre
    | recredited n m hre hne hn hm =>
        exact iff_of_false (fun h => hne (h n m hn hm)) (not_not.mpr hre)
  refine ⟨honce, fun hre => ?_, not_recredited⟩
  by_cases hsome : ∃ n, (empty.visits env vs).ledger.accounts.tag? n = some tag
  · rcases hsome with ⟨n, hn⟩
    refine ⟨n, fun as now draw peer message hvs ha => ?_⟩
    rcases grant_account hkey hvs ha with ⟨g, hg, haccount⟩
    exact ⟨g, hg, honce.mpr hre g.account n haccount hn⟩
  · refine ⟨0, fun as now draw peer message hvs ha => ?_⟩
    rcases grant_account hkey hvs ha with ⟨g, -, haccount⟩
    exact absurd ⟨g.account, haccount⟩ hsome

/-! ## A payment that is credited again -/

/-- The first peer shows a cookie for the fifth payment. -/
def showing (endTime : Int64) (allowance : UInt64) : Visit :=
  .join 0 ⟨1⟩ (JoinCookie.sealed zeroKeyServer.cipher default default
    ⟨default, default, 4, ⟨1⟩, endTime, 5, allowance, false⟩)

/-- A cookie is shown, and shown again after a sweep in the last second of it. -/
def returningRun : List (Moment × Visit) :=
  let moment (second : Int) : Moment := ⟨0, second * 1000000000⟩
  [(moment 1700000000, showing 1700000010 1000),
    (moment 1700000010, .sweep),
    (moment 1700000010, showing 1700000010 1000)]

theorem creditedOnce_iff_returning :
    zeroKeyServer.settings.cookieKey.isSome ∧
      (returningRun.Pairwise fun v w => v.1.unix ≤ w.1.unix) ∧
      (empty.visits zeroKeyServer returningRun).CreditedOnce 5 := by
  have hkey : zeroKeyServer.settings.cookieKey.isSome := rfl
  have hclock : returningRun.Pairwise fun v w => v.1.unix ≤ w.1.unix := by decide +kernel
  have h := creditedOnce_iff zeroKeyServer hkey 5 returningRun
  exact ⟨hkey, hclock, h.1.mpr (h.2.2 hclock (by decide +kernel))⟩

/-- A cookie is shown, and one for the same payment that is good for longer after a sweep. -/
def lapsingRun : List (Moment × Visit) :=
  let moment (second : Int) : Moment := ⟨0, second * 1000000000⟩
  [(moment 1700000000, showing 1700000010 1000),
    (moment 1700000020, .sweep),
    (moment 1700000020, showing 1700000100 5000)]

/-- **A payment is credited again by a cookie that is good for longer than the first.** -/
theorem lapsed_payment_is_credited_again :
    zeroKeyServer.settings.cookieKey.isSome ∧
      (lapsingRun.Pairwise fun v w => v.1.unix ≤ w.1.unix) ∧
      ¬ (empty.visits zeroKeyServer lapsingRun).CreditedOnce 5 := by
  refine ⟨rfl, by decide +kernel, fun h => ?_⟩
  have htwo : (empty.visits zeroKeyServer lapsingRun).ledger.accounts.tag? 0 = some 5 ∧
      (empty.visits zeroKeyServer lapsingRun).ledger.accounts.tag? 1 = some 5 := by
    decide +kernel
  exact absurd (h 0 1 htwo.1 htwo.2) (by decide)

end Roster

end MeteredRelay
