import MeteredRelay.Proofs.Gauge
import MeteredRelay.Proofs.Roster.Index
import MeteredRelay.Proofs.Roster.Search

/-!
# The gauge of sessions

The gauge goes up with every session that is made and down with every one that leaves the table, so
it follows the number of entries (`Ahead`).  A rotation does not touch it: it enters the new id and
removes the old one, which is right if there was an entry for the old id and none for the new.

A rotation that displaces another session leaves one entry less and the gauge as it was, and nothing
takes this back when the displaced session loses its last peer.  A displaced session that is rotated
to a free id comes back into the table, again without the gauge.  **`sessionGauge_run`** counts
both: after every run the gauge shows the number of entries and what went astray.  So it is right at
every moment of a run exactly if the run displaces no session.
**`displacement_leaves_the_gauge_up`** is a run after which nobody is bound to anything and the
gauge still shows a session.
-/

namespace MeteredRelay

namespace Roster

variable {env : Environment} {r r' : Roster} {n : SessionNo} {b old : Binding} {p peer : PeerId}
  {id : SessionId} {link : LinkNo} {source : PeerId} {g : Grant} {now : Instant} {k : Int}

/-- The gauge of sessions shows so many more than there are entries in the table. -/
def Ahead (r : Roster) (k : Int) : Prop := r.sessionGauge.Reads (r.table.size + k)

namespace Ahead

/-! ## Sessions that come and go -/

lemma create (h : r.Ahead k) (hn : r.table.get? id = none) : (r.create id).1.Ahead k := by
  have hsize := Table.size_insert r.table id r.sessions.size
  rw [hn] at hsize
  have hone : ((r.table.insert id r.sessions.size).size : Int) + k = r.table.size + k + 1 := by
    rw [hsize]
    push_cast
    simp
    omega
  show r.sessionGauge.increment.Reads ((r.table.insert id r.sessions.size).size + k)
  rw [hone]
  exact Gauge.Reads.increment h

lemma forget (h : r.Ahead k) : (r.forget id n).Ahead k := by
  unfold Roster.forget
  split
  · rename_i hn
    have hsize := Table.size_erase r.table id
    rw [hn] at hsize
    have hone : ((r.table.erase id).size : Int) + k = r.table.size + k - 1 := by
      rw [← hsize]
      push_cast
      simp
      omega
    show r.sessionGauge.decrement.Reads ((r.table.erase id).size + k)
    rw [hone]
    exact Gauge.Reads.decrement h
  · exact h

lemma forceListing (h : r.Ahead k) : (r.forceListing n).Ahead k := by
  unfold Roster.forceListing
  split <;> exact h

lemma remove (h : r.Ahead k) : (r.remove n p).Ahead k := by
  have hchanged : (r.changeSession n (·.remove p)).Ahead k := h
  simp only [Roster.remove, settle]
  split
  · exact hchanged.forget
  · exact hchanged.forceListing

/-! ## Binds -/

lemma searches {x : Roster} {rounds : Nat} (h : r.Ahead k) (hx : Searches id rounds r x n) :
    x.Ahead k :=
  hx.keeps (P := (Ahead · k)) (fun _ hn hy => hy.create hn) (fun _ _ hy => hy.forget) h

lemma bindNew (h : r.Ahead k) : (r.bindNew b).Ahead k := by
  have hbound : ((r.changeSession b.session (·.welcome b)).join b).Ahead k := h
  unfold Roster.bindNew
  dsimp only
  split
  · exact hbound.remove
  · exact hbound

lemma takeOver (h : r.Ahead k) : (r.takeOver old b).Ahead k := by
  have hparted : ((r.changeSession b.session (·.replace b)).part old).Ahead k := by
    unfold part
    split <;> exact h
  unfold Roster.takeOver
  dsimp only
  split
  · exact remove hparted
  · exact hparted

lemma enters {outcome : Except RelayFault SessionNo} (h : r.Ahead k)
    (hr' : Enters r n now link peer g r' outcome) : r'.Ahead k := by
  cases hr' with
  | banned => exact h
  | mismatched => exact h
  | refreshed => exact h
  | takenOver => exact takeOver h
  | welcomed => exact bindNew h

/-- A bind moves the gauge by as much as the table, from any roster. -/
lemma bind (h : r.Ahead k) (now : Instant) (link : LinkNo) (peer : PeerId) (g : Grant) :
    (r.bind now link peer g).1.Ahead k := by
  obtain ⟨rounds, -, hsearches⟩ := exists_searches r g.session
  exact (h.searches hsearches).enters (enters_bind rfl now link peer)

/-! ## Leaving -/

lemma leave (h : r.Ahead k) : (r.leave link peer).1.Ahead k := by
  simp only [Roster.leave]
  split
  · exact h
  · exact remove h

lemma leaveAll (h : r.Ahead k) : (r.leaveAll link).Ahead k :=
  leaveAll_induction (motive := fun x => x.Ahead k) (fun _ _ => leave) h

lemma kick (h : r.Ahead k) {target : PeerId} {banSeconds : UInt32} :
    (r.kick now link source target banSeconds).1.Ahead k := by
  rcases kick_cases r now link source target banSeconds with
    hkick | ⟨held, hkick | ⟨n, last, hkick⟩⟩
  · rwa [hkick]
  · rw [hkick]
    exact h.leave
  · rw [hkick]
    exact leave h

end Ahead

/-! ## Rotations -/

/-- What goes astray when a session is given a new id: the entry of another session that had it,
unless the session itself had lost its own before. -/
def strayedBy (r : Roster) (n : SessionNo) (new : SessionId) : Int :=
  (if (r.table.get? new).isSome then 1 else 0) -
    if r.table.get? (r.session n).id = some n then 0 else 1

/-- What goes astray in an act: nothing, but in a rotation that gives a session another id. -/
def strayed (env : Environment) (now : Moment) (r : Roster) : Act → Int
  | .rotate link source message =>
    match (r.rotate env now link source message).2, r.binding? link source,
      Rotation.openedCookie env message with
    | .ok (), some b, .ok c =>
      if Rotation.newId env c = Rotation.oldId env c then 0
      else r.strayedBy b.session (Rotation.newId env c)
    | _, _, _ => 0
  | _ => 0

/-- What goes astray in a run. -/
def strayedIn (env : Environment) : Roster → List (Moment × Act) → Int
  | _, [] => 0
  | r, a :: as => strayed env a.1 r a.2 + strayedIn env (r.act env a.1 a.2) as

lemma strayedIn_append (env : Environment) (r : Roster) (as bs : List (Moment × Act)) :
    strayedIn env r (as ++ bs) = strayedIn env r as + strayedIn env (r.run env as) bs := by
  induction as generalizing r with
  | nil => simp [strayedIn]
  | cons a as ih => simp [strayedIn, ih, Int.add_assoc]

/-- A new id is one more entry if it stood for nobody, and the old one is one less if it stood for
the session. -/
lemma size_table_rename {new : SessionId} (hne : (r.session n).id ≠ new) :
    ((r.rename n new).table.size : Int) + r.strayedBy n new = r.table.size := by
  have hinsert : ((r.table.insert new n).size : Int) +
      (if (r.table.get? new).isSome then 1 else 0) = r.table.size + 1 := by
    rw [Table.size_insert]
    split <;> push_cast <;> omega
  have hold : (r.table.insert new n).get? (r.session n).id = r.table.get? (r.session n).id := by
    rw [Table.get?_insert, if_neg hne.symm]
  have herase := Table.size_erase (r.table.insert new n) (r.session n).id
  simp only [rename, strayedBy]
  rw [hold] at herase ⊢
  generalize (if (r.table.get? new).isSome then (1 : Int) else 0) = displaced at hinsert ⊢
  by_cases hentry : r.table.get? (r.session n).id = some n
  · simp only [hentry, Option.isSome_some, if_true] at herase ⊢
    omega
  · simp only [hentry, if_false]
    omega

/-- A rotation leaves the gauge, and the table loses what goes astray. -/
lemma Ahead.rotate (h : r.Ahead k) (hr : r.Sound) (now : Moment) (message : Bytes) :
    (r.act env now (.rotate link source message)).Ahead
      (k + strayed env now r (.rotate link source message)) := by
  have hrotates := rotates_rotate hr env now link source message
  simp only [act, strayed]
  generalize r.rotate env now link source message = x at hrotates ⊢
  rcases x with ⟨r', outcome⟩
  dsimp only at hrotates ⊢
  cases hrotates with
  | refused e =>
      rw [show k + _ = k from Int.add_zero k]
      exact h
  | spent ledger hb hc hold hl hnew =>
      simp only [hb, hc, hnew, if_true, Int.add_zero]
      exact h
  | moved ledger hb hc hold hl hnew =>
      rename_i b c
      simp only [hb, hc, hnew, if_false]
      have hne : (({ r with ledger } : Roster).session b.session).id ≠ Rotation.newId env c :=
        fun e => hnew (e.symm.trans hold)
      have hsize := size_table_rename hne
      have hentries : ((({ r with ledger } : Roster).rename b.session
          (Rotation.newId env c)).table.size : Int) +
            (k + r.strayedBy b.session (Rotation.newId env c)) = r.table.size + k := by
        rw [show r.strayedBy b.session (Rotation.newId env c) =
          ({ r with ledger } : Roster).strayedBy b.session (Rotation.newId env c) from rfl]
        have htable : ({ r with ledger } : Roster).table.size = r.table.size := rfl
        omega
      rw [Ahead, hentries]
      exact h

/-- **What the gauge is ahead by changes in an act by what goes astray.** -/
theorem Ahead.act (h : r.Ahead k) (hr : r.Sound) (env : Environment) (now : Moment) (a : Act) :
    (r.act env now a).Ahead (k + strayed env now r a) := by
  -- nothing goes astray but in a rotation
  have hzero : k + 0 = k := Int.add_zero k
  cases a with
  | bind link peer grant => exact hzero.symm ▸ h.bind now.instant link peer grant
  | leave link peer => exact hzero.symm ▸ h.leave
  | leaveAll link => exact hzero.symm ▸ h.leaveAll
  | kick link source target banSeconds => exact hzero.symm ▸ h.kick
  | rotate link source message => exact h.rotate hr now message
  | forceListing n => exact hzero.symm ▸ h.forceListing
  | _ => exact hzero.symm ▸ h

lemma ahead_run (env : Environment) (acts : List (Moment × Act)) :
    (empty.run env acts).Ahead (strayedIn env empty acts) := by
  induction acts using List.reverseRecOn with
  | nil => exact Gauge.reads_zero
  | append_singleton as a ih =>
      have hact := ih.act (sound_run env as) env a.1 a.2
      rw [strayedIn_append, run_append]
      simpa [strayedIn] using hact

/-! ## Displaced sessions -/

/-- As long as the table has its entries, what goes astray is the session that an act displaces. -/
lemma strayed_of_entered (h : r.Entered) (hr : r.Sound) (env : Environment) (now : Moment)
    (a : Act) : (Displaces env now r a ∧ strayed env now r a = 1) ∨
      (¬ Displaces env now r a ∧ strayed env now r a = 0) := by
  cases a with
  | rotate link source message =>
      have hrotates := rotates_rotate hr env now link source message
      have hiff := hrotates.entered_iff h hr
      simp only [Displaces, strayed]
      generalize r.rotate env now link source message = x at hrotates hiff ⊢
      rcases x with ⟨r', outcome⟩
      dsimp only at hrotates hiff ⊢
      cases hrotates with
      | refused e => exact .inr ⟨hiff.mp h, rfl⟩
      | spent ledger hb hc hold hl hnew =>
          refine .inr ⟨hiff.mp (h.of_sessions rfl rfl), ?_⟩
          simp only [hb, hc, hnew, if_true]
      | moved ledger hb hc hold hl hnew =>
          rename_i b c
          have hn : (({ r with ledger } : Roster).session b.session).bindings ≠ [] :=
            List.ne_nil_of_mem (hr.joined_iff.mp hb).1
          have hentry : r.table.get? (r.session b.session).id = some b.session := h.entry _ hn
          have hne : (({ r with ledger } : Roster).session b.session).id ≠ Rotation.newId env c :=
            fun e => hnew (e.symm.trans hold)
          cases hm : r.table.get? (Rotation.newId env c) with
          | none =>
              have h' : ({ r with ledger } : Roster).Entered := h.of_sessions rfl rfl
              refine .inr ⟨hiff.mp (h'.rename hn hne hm), ?_⟩
              simp [hb, hc, hnew, strayedBy, hentry, hm]
          | some m =>
              have hlost := not_entered_rename (sound_ledger hr ledger) hn hne hm
              refine .inl ⟨not_not.mp (mt hiff.mpr hlost), ?_⟩
              simp [hb, hc, hnew, strayedBy, hentry, hm]
  | _ => exact .inr ⟨id, rfl⟩

/-- An act spoils the gauge exactly if it displaces a session. -/
lemma ahead_act_iff (h : r.Entered) (hr : r.Sound) (hk : r.Ahead 0) (env : Environment)
    (now : Moment) (a : Act) : (r.act env now a).Ahead 0 ↔ ¬ Displaces env now r a := by
  have hact := hk.act hr env now a
  rcases strayed_of_entered h hr env now a with ⟨hd, hone⟩ | ⟨hd, hzero⟩
  · rw [hone, Int.zero_add] at hact
    refine iff_of_false (fun hnone => ?_) (not_not.mpr hd)
    rw [Ahead, Int.add_zero] at hnone
    exact hnone.not_succ hact
  · rw [hzero] at hact
    exact iff_of_true hact hd

/-! ## Runs -/

/-- Nobody is bound to anything. -/
def Deserted (r : Roster) : Prop := ∀ n, (r.session n).bindings = []

lemma Deserted.size_table (h : r.Deserted) (hr : r.Sound) : r.table.size = 0 := by
  rw [Table.size, List.length_eq_zero_iff, List.eq_nil_iff_forall_not_mem]
  rintro ⟨id, n⟩ he
  exact hr.ne_nil_of_table (Table.get?_eq_some_iff.mpr he) (h n)

/-- What the gauge of sessions is for. -/
structure Gauged (r : Roster) : Prop where
  /-- It shows the number of entries in the table. -/
  entries : r.sessionGauge.Reads r.table.size
  /-- Both are zero when everybody has left. -/
  deserted : r.Deserted → r.table.size = 0 ∧ r.sessionGauge = .zero

lemma gauged_iff (hr : r.Sound) : r.Gauged ↔ r.Ahead 0 := by
  rw [Ahead, Int.add_zero]
  refine ⟨Gauged.entries, fun h => ⟨h, fun hd => ?_⟩⟩
  have hsize := hd.size_table hr
  rw [hsize] at h
  exact ⟨hsize, h.eq_zero⟩

/-- As long as the gauge is right, the table has its entries. -/
lemma entered_of_gauged {acts : List (Moment × Act)}
    (h : ∀ as, as <+: acts → (empty.run env as).Gauged) : (empty.run env acts).Entered := by
  induction acts using List.reverseRecOn with
  | nil => exact entered_empty
  | append_singleton as a ih =>
      have hprefix := List.prefix_append as [a]
      have hentered := ih fun bs hbs => h bs (hbs.trans hprefix)
      have hahead := (gauged_iff (sound_run env as)).mp (h as hprefix)
      have hact := (gauged_iff (sound_run env (as ++ [a]))).mp (h _ (List.prefix_refl _))
      rw [run_append] at hact ⊢
      have hnot := (ahead_act_iff hentered (sound_run env as) hahead env a.1 a.2).mp hact
      exact (entered_act_iff a.1 a.2 hentered (sound_run env as)).mpr hnot

/-- As long as nothing is displaced, the table has its entries and the gauge shows them. -/
lemma ahead_of_not_displaces {acts : List (Moment × Act)}
    (h : ∀ as a, as ++ [a] <+: acts → ¬ Displaces env a.1 (empty.run env as) a.2) :
    (empty.run env acts).Entered ∧ (empty.run env acts).Ahead 0 := by
  induction acts using List.reverseRecOn with
  | nil => exact ⟨entered_empty, Gauge.reads_zero⟩
  | append_singleton as a ih =>
      have hprefix := List.prefix_append as [a]
      rcases ih fun bs b hbs => h bs b (hbs.trans hprefix) with ⟨hentered, hahead⟩
      have hnot := h as a (List.prefix_refl _)
      rw [run_append]
      exact ⟨(entered_act_iff a.1 a.2 hentered (sound_run env as)).mpr hnot,
        (ahead_act_iff hentered (sound_run env as) hahead env a.1 a.2).mpr hnot⟩

/-- **The gauge of sessions shows the number of entries and what went astray.**  The table is empty
when everybody has left.  The gauge is right, and zero when everybody has left, at every moment of
a run exactly if the run displaces no session. -/
theorem sessionGauge_run (env : Environment) (acts : List (Moment × Act)) :
    let r := empty.run env acts
    r.sessionGauge.Reads (r.table.size + strayedIn env empty acts) ∧
      (r.Deserted → r.table.size = 0) ∧
      ((∀ as, as <+: acts → (empty.run env as).Gauged) ↔
        ∀ as a, as ++ [a] <+: acts → ¬ Displaces env a.1 (empty.run env as) a.2) := by
  intro r
  refine ⟨ahead_run env acts, fun h => h.size_table (sound_run env acts), ?_, ?_⟩
  · intro h as a ha
    have hprefix := (List.prefix_append as [a]).trans ha
    have hbefore := entered_of_gauged fun bs hbs => h bs (hbs.trans hprefix)
    have hafter := entered_of_gauged fun bs hbs => h bs (hbs.trans ha)
    rw [run_append] at hafter
    exact (entered_act_iff a.1 a.2 hbefore (sound_run env as)).mp hafter
  · intro h as has
    have hboth := ahead_of_not_displaces fun bs b hbs => h bs b (hbs.trans has)
    exact (gauged_iff (sound_run env as)).mpr hboth.2

/-- A session is displaced, and then everybody leaves. -/
def desertedRun : List (Moment × Act) :=
  let now : Moment := ⟨0, 1700000000 * 1000000000⟩
  displacingRun ++ [(now, .leave 0 ⟨1⟩), (now, .leave 1 ⟨2⟩)]

/-- **A displaced session stays in the gauge.**  Everybody has left and the table is empty, and the
gauge still shows a session. -/
theorem displacement_leaves_the_gauge_up :
    let r := empty.run zeroKeyServer desertedRun
    ¬ r.Gauged ∧ r.Deserted ∧ r.table.size = 0 ∧ r.sessionGauge.value = 1 := by
  intro r
  obtain ⟨hgauge, hall⟩ : r.sessionGauge.value = 1 ∧
      ∀ n < r.sessions.size, (r.session n).bindings = [] := by decide +kernel
  have hdeserted : r.Deserted := by
    intro n
    by_cases hn : n < r.sessions.size
    · exact hall n hn
    · rw [session_of_le (Nat.not_lt.mp hn)]
      rfl
  have hsize : r.table.size = 0 := hdeserted.size_table (sound_run _ _)
  refine ⟨fun h => ?_, hdeserted, hsize, hgauge⟩
  rw [(h.deserted hdeserted).2] at hgauge
  exact absurd hgauge (by decide)

end Roster

end MeteredRelay
