import Mathlib.Data.Finset.Insert
import MeteredRelay.Proofs.Window

/-!
# A window remembers as much as it needs

A receiver with room for everything would keep a record: the highest number, and the set of all
numbers that it accepted since it last started again.  A window keeps sixteen bits of this set.
`Matches` says that these are the right ones, and `Matches.feed` that every number keeps it so,
whether it moves the window, fills it, starts it again or is refused.

**`packed_matches_record`** draws the conclusion for whole runs: the packed window accepts exactly
the numbers that the record does, and therefore none twice, unless the record was started again in
between.
-/

namespace MeteredRelay

/-- What a receiver with room for everything would remember. -/
structure Record where
  highest : Nat
  /-- The numbers that were accepted since the record was last started. -/
  seen : Finset Nat
deriving DecidableEq

namespace Record

/-- Nothing seen yet. -/
def start : Record := ⟨0, ∅⟩

/-- A number of the lower half, far behind a record that is at the end of the numbers, starts it
again. -/
def Restarts (t : Record) (s : Nat) : Prop :=
  s + 16 ≤ t.highest ∧ 2 ^ 32 - 17 < t.highest ∧ s < 2 ^ 31

/-- A number is accepted if it is above the highest, if it is less than sixteen below and was not
seen, or if it starts the record again. -/
def Accepts (t : Record) (s : Nat) : Prop :=
  t.highest < s ∨ (t.highest < s + 16 ∧ s ≤ t.highest ∧ s ∉ t.seen) ∨ t.Restarts s

instance (t : Record) (s : Nat) : Decidable (t.Restarts s) := by
  unfold Restarts; infer_instance

instance (t : Record) (s : Nat) : Decidable (t.Accepts s) := by
  unfold Accepts; infer_instance

/-- The record after a number. -/
def take (t : Record) (s : Nat) : Record :=
  if t.Restarts s then ⟨s, {s}⟩
  else if t.Accepts s then ⟨max t.highest s, insert s t.seen⟩
  else t

/-- The record after a run of numbers. -/
def run (t : Record) (ss : List UInt32) : Record := ss.foldl (fun t s => t.take s.toNat) t

variable {t : Record} {s : Nat}

lemma run_append (t : Record) (ss us : List UInt32) : t.run (ss ++ us) = (t.run ss).run us :=
  List.foldl_append

lemma take_of_restarts (h : t.Restarts s) : t.take s = ⟨s, {s}⟩ := by
  rw [take, if_pos h]

lemma take_of_accepts (h : ¬ t.Restarts s) (ha : t.Accepts s) :
    t.take s = ⟨max t.highest s, insert s t.seen⟩ := by
  rw [take, if_neg h, if_pos ha]

lemma take_of_not_accepts (h : ¬ t.Accepts s) : t.take s = t := by
  rw [take, if_neg fun hr => h (.inr (.inr hr)), if_neg h]

/-- A number is in the record that accepted it. -/
lemma mem_seen_take (h : t.Accepts s) : s ∈ (t.take s).seen := by
  by_cases hr : t.Restarts s
  · rw [take_of_restarts hr]
    exact Finset.mem_singleton_self s
  · rw [take_of_accepts hr h]
    exact Finset.mem_insert_self s _

/-- A record forgets only when it starts again. -/
lemma subset_seen_take (h : ¬ t.Restarts s) : t.seen ⊆ (t.take s).seen := by
  by_cases ha : t.Accepts s
  · rw [take_of_accepts h ha]
    exact Finset.subset_insert s _
  · rw [take_of_not_accepts ha]

/-- No number in a record is above its highest. -/
def Bounded (t : Record) : Prop := ∀ s ∈ t.seen, s ≤ t.highest

lemma bounded_start : start.Bounded := nofun

lemma Bounded.take (h : t.Bounded) (s : Nat) : (t.take s).Bounded := by
  by_cases hr : t.Restarts s
  · rw [take_of_restarts hr]
    exact fun u hu => (Finset.mem_singleton.mp hu).le
  by_cases ha : t.Accepts s
  · rw [take_of_accepts hr ha]
    intro u hu
    rcases Finset.mem_insert.mp hu with rfl | hu
    · exact Nat.le_max_right ..
    · exact (h u hu).trans (Nat.le_max_left ..)
  · rwa [take_of_not_accepts ha]

/-- A number that is in a record is accepted only where it starts the record again. -/
lemma Bounded.restarts (h : t.Bounded) (hs : s ∈ t.seen) (ha : t.Accepts s) : t.Restarts s := by
  rcases ha with habove | ⟨-, -, hnew⟩ | hr
  · exact absurd (h s hs) (Nat.not_le.mpr habove)
  · exact absurd hs hnew
  · exact hr

/-- Between two times that a number is accepted, the second included, the record starts again. -/
lemma Bounded.restarts_between (h : t.Bounded) {s : UInt32} (hs : s.toNat ∈ t.seen)
    {us : List UInt32} (ha : (t.run us).Accepts s.toNat) :
    ∃ vs v, vs ++ [v] <+: us ++ [s] ∧ (t.run vs).Restarts v.toNat := by
  induction us generalizing t with
  | nil => exact ⟨[], s, List.prefix_rfl, h.restarts hs ha⟩
  | cons u us ih =>
      by_cases hr : t.Restarts u.toNat
      · exact ⟨[], u, by simp, hr⟩
      · rcases ih (h.take u.toNat) (subset_seen_take hr hs) ha with ⟨vs, v, hpre, hv⟩
        exact ⟨u :: vs, v, by simpa using hpre, hv⟩

end Record

namespace Window

variable {w : Window} {t : Record} {s : UInt32}

/-- A window holds what is in a record, as far as it reaches. -/
structure Matches (w : Window) (t : Record) : Prop where
  highest : w.highest.toNat = t.highest
  seen : ∀ i < width, w.seen i = true ↔ i ≤ t.highest ∧ t.highest - i ∈ t.seen
  bounded : t.Bounded

lemma matches_start : start.Matches .start where
  highest := rfl
  seen := fun i _ => by simp [Window.seen, start, Record.start]
  bounded := Record.bounded_start

namespace Matches

/-- In the window, the bit of a number tells whether the record has it. -/
lemma seen_iff (h : w.Matches t) (hs : s.toNat ≤ w.highest.toNat)
    (hnear : w.highest.toNat < s.toNat + width) :
    w.seen (w.highest.toNat - s.toNat) = true ↔ s.toNat ∈ t.seen := by
  rw [h.seen _ (by omega), h.highest] at *
  rw [Nat.sub_sub_self hs]
  exact and_iff_right (Nat.sub_le ..)

/-- The window accepts what the record accepts. -/
lemma accept?_isSome_iff (h : w.Matches t) (s : UInt32) :
    (w.accept? s).isSome ↔ t.Accepts s.toNat := by
  have hfeeds := feeds_accept? w s
  generalize w.accept? s = o at hfeeds
  have hhighest := h.highest
  have hwidth : width = 16 := rfl
  have hsize : UInt32.size = 2 ^ 32 := rfl
  cases hfeeds with
  | moved hs => exact iff_of_true rfl (.inl (hhighest ▸ hs))
  | filled hs hnear hnew =>
      have hfresh : s.toNat ∉ t.seen := fun hm => by
        rw [(h.seen_iff hs hnear).mpr hm] at hnew
        contradiction
      exact iff_of_true rfl (.inr (.inl ⟨by omega, by omega, hfresh⟩))
  | repeated hs hnear hold =>
      refine iff_of_false (by simp) ?_
      rintro (habove | ⟨-, -, hfresh⟩ | ⟨hfar, -, -⟩)
      · omega
      · exact hfresh ((h.seen_iff hs hnear).mp hold)
      · omega
  | restarted hfar hend hlow =>
      exact iff_of_true rfl (.inr (.inr ⟨by omega, by omega, hlow⟩))
  | behind hfar hmid =>
      refine iff_of_false (by simp) ?_
      rintro (habove | ⟨hnear, -, -⟩ | ⟨-, hend, hlow⟩)
      · omega
      · omega
      · exact hmid ⟨by omega, hlow⟩

/-- What was `i` below the new highest number was less below the old one, if it was there. -/
lemma moved (h : w.Matches t) {w' : Window} (hs : w.highest.toNat < s.toNat)
    (hh : w'.highest = s) (hseen : ∀ i < width, w'.seen i = true ↔ i = 0 ∨
      s.toNat - w.highest.toNat ≤ i ∧ w.seen (i - (s.toNat - w.highest.toNat)) = true) :
    w'.Matches (t.take s.toNat) := by
  have hhighest := h.highest
  have hbounded := h.bounded.take s.toNat
  rw [Record.take_of_accepts (fun hr => by have := hr.1; omega) (.inl (hhighest ▸ hs)),
    Nat.max_eq_right (by omega)] at hbounded ⊢
  refine ⟨congrArg UInt32.toNat hh, fun i hi => ?_, hbounded⟩
  rw [hseen i hi, Finset.mem_insert]
  dsimp only
  by_cases hd : s.toNat - w.highest.toNat ≤ i
  · have hold := h.seen (i - (s.toNat - w.highest.toNat)) (by omega)
    have hoffset : t.highest - (i - (s.toNat - w.highest.toNat)) = s.toNat - i := by omega
    rw [hold, hoffset]
    constructor
    · rintro (rfl | ⟨-, hle, hmem⟩)
      · omega
      · exact ⟨by omega, .inr hmem⟩
    · rintro ⟨hle, heq | hmem⟩
      · exact .inl (by omega)
      · exact .inr ⟨hd, by omega, hmem⟩
  · have hnot : s.toNat - i ∉ t.seen := fun hm => by
      have := h.bounded _ hm
      omega
    constructor
    · rintro (rfl | ⟨hle, -⟩)
      · exact ⟨Nat.zero_le _, .inl rfl⟩
      · exact absurd hle hd
    · rintro ⟨hle, heq | hmem⟩
      · exact .inl (by omega)
      · exact absurd hmem hnot

lemma filled (h : w.Matches t) {w' : Window} (hs : s.toNat ≤ w.highest.toNat)
    (hacc : t.Accepts s.toNat) (hnear : w.highest.toNat < s.toNat + width)
    (hh : w'.highest = w.highest)
    (hseen : ∀ i < width, w'.seen i = true ↔ w.seen i = true ∨ i = w.highest.toNat - s.toNat) :
    w'.Matches (t.take s.toNat) := by
  have hwidth : width = 16 := rfl
  have hhighest := h.highest
  have hbounded := h.bounded.take s.toNat
  rw [Record.take_of_accepts (fun hr => by have := hr.1; omega) hacc,
    Nat.max_eq_left (by omega)] at hbounded ⊢
  refine ⟨hh ▸ hhighest, fun i hi => ?_, hbounded⟩
  rw [hseen i hi, h.seen i hi, Finset.mem_insert]
  dsimp only
  constructor
  · rintro (⟨hle, hmem⟩ | rfl)
    · exact ⟨hle, .inr hmem⟩
    · exact ⟨by omega, .inl (by omega)⟩
  · rintro ⟨hle, heq | hmem⟩
    · exact .inr (by omega)
    · exact .inl ⟨hle, hmem⟩

/-- **Every number keeps the window and the record together.** -/
theorem feed (h : w.Matches t) (s : UInt32) : (w.feed s).Matches (t.take s.toNat) := by
  have hacc := h.accept?_isSome_iff s
  have hfeeds := feeds_accept? w s
  cases ho : w.accept? s with
  | none =>
      have ha : ¬ t.Accepts s.toNat := fun ha => by simpa [ho] using hacc.mpr ha
      rwa [feed_of_none ho, Record.take_of_not_accepts ha]
  | some w' =>
      have ha : t.Accepts s.toNat := hacc.mp (by rw [ho]; rfl)
      rw [feed_of_some ho]
      rw [ho] at hfeeds
      cases hfeeds with
      | moved hs hh hseen => exact h.moved hs hh hseen
      | filled hs hnear _ hh hseen => exact h.filled hs ha hnear hh hseen
      | restarted hfar hend hlow hh hseen =>
          have hhighest := h.highest
          have hwidth : width = 16 := rfl
          have hsize : UInt32.size = 2 ^ 32 := rfl
          have hbounded := h.bounded.take s.toNat
          rw [Record.take_of_restarts ⟨by omega, by omega, hlow⟩] at hbounded ⊢
          refine ⟨congrArg UInt32.toNat hh, fun i hi => ?_, hbounded⟩
          rw [hseen i hi, Finset.mem_singleton]
          dsimp only
          omega

lemma run (h : w.Matches t) (ss : List UInt32) : (w.run ss).Matches (t.run ss) := by
  induction ss generalizing w t with
  | nil => exact h
  | cons s ss ih => exact ih (h.feed s)

end Matches

end Window

namespace PackedWindow

/-- **A packed window remembers as much of a record as it needs.**  After any run of numbers it has
the record's highest, its bits tell which of the sixteen numbers up to this are in the record, and
it accepts exactly what the record accepts.  A number that is refused changes nothing, and one that
is accepted twice was the number, or came before one, that started the record again. -/
theorem packed_matches_record (ss : List UInt32) :
    (start.run ss).window.highest.toNat = (Record.start.run ss).highest ∧
    (∀ i < 16, (start.run ss).window.seen i = true ↔
      i ≤ (Record.start.run ss).highest ∧
        (Record.start.run ss).highest - i ∈ (Record.start.run ss).seen) ∧
    (∀ s, ((start.run ss).accept? s).isSome ↔ (Record.start.run ss).Accepts s.toNat) ∧
    (∀ s, (start.run ss).accept? s = none →
      (start.run ss).feed s = start.run ss ∧
        (Record.start.run ss).take s.toNat = Record.start.run ss) ∧
    (∀ as s bs, ss = as ++ s :: bs → ((start.run as).accept? s).isSome →
      ((start.run ss).accept? s).isSome →
      ∃ cs c, cs ++ [c] <+: bs ++ [s] ∧ (Record.start.run (as ++ s :: cs)).Restarts c.toNat) := by
  have hmatches : ∀ us, (start.run us).window.Matches (Record.start.run us) := fun us => by
    rw [window_run]
    exact Window.matches_start.run us
  have haccepts : ∀ us s, ((start.run us).accept? s).isSome ↔
      (Record.start.run us).Accepts s.toNat := fun us s => by
    rw [isSome_accept?, (hmatches us).accept?_isSome_iff]
  refine ⟨(hmatches ss).highest, (hmatches ss).seen, haccepts ss, fun s hs => ?_, ?_⟩
  · have hnot : ¬ (Record.start.run ss).Accepts s.toNat := by
      rw [← haccepts, hs]
      simp
    exact ⟨by rw [feed, hs, Option.getD_none], Record.take_of_not_accepts hnot⟩
  · rintro as s bs rfl hfirst hsecond
    have hbounded := ((hmatches as).bounded).take s.toNat
    have hmem := Record.mem_seen_take ((haccepts as s).mp hfirst)
    rw [haccepts, Record.run_append] at hsecond
    rcases hbounded.restarts_between hmem hsecond with ⟨cs, c, hpre, hrestarts⟩
    refine ⟨cs, c, hpre, ?_⟩
    rw [Record.run_append]
    exact hrestarts

end PackedWindow

end MeteredRelay
