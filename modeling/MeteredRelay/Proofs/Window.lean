import Mathlib.Algebra.GroupWithZero.Nat
import Mathlib.Algebra.Ring.Int.Defs
import Mathlib.Tactic.Common
import MeteredRelay.Window

/-!
# What a window does with a number

A number moves the window, fills a gap in it, starts it again, or is refused, because it was seen or
because it is too far behind.  `Window.Feeds` lists these five ways and says for each which bits are
set after it, and **`feeds_accept?`** says that there is no other: what is said of windows below
goes by its cases, and no proof looks at the words again.

A packed window is a window (`window_ofWindow`): it accepts the same numbers (`isSome_accept?`), and
what holds after a run of one holds after the same run of the other (**`window_run`**).
-/

namespace MeteredRelay

namespace Window

variable {w : Window} {s : UInt32} {i d k : Nat}

/-! ## Bits -/

/-- A shift by less than the width is not cut short. -/
lemma toNat_ofNat_mod (hk : k < width) : (UInt16.ofNat k).toNat % 16 = k := by
  have hw : width = 16 := rfl
  rw [UInt16.toNat_ofNat']
  omega

/-- The bits after the highest number rose by `d`. -/
lemma testBit_shifted (bitmap : UInt16) (hi : i < width) :
    (shifted bitmap d).toNat.testBit i = true ↔
      i = 0 ∨ d ≤ i ∧ bitmap.toNat.testBit (i - d) = true := by
  rw [shifted, UInt16.toNat_or, Nat.testBit_or, Bool.or_eq_true, UInt16.toNat_one,
    Nat.testBit_one_eq_true_iff_self_eq_zero, or_comm]
  refine or_congr Iff.rfl ?_
  split
  · rename_i hd
    have hi' : i < 16 := hi
    rw [UInt16.toNat_shiftLeft, toNat_ofNat_mod hd, Nat.testBit_mod_two_pow, Nat.testBit_shiftLeft]
    simp [hi']
  · rename_i hd
    refine iff_of_false (by simp) fun h => hd ?_
    omega

/-- The bits after one more was set. -/
lemma testBit_marked (bitmap : UInt16) (hk : k < width) (hi : i < width) :
    (bitmap ||| (1 <<< UInt16.ofNat k)).toNat.testBit i = true ↔
      bitmap.toNat.testBit i = true ∨ i = k := by
  have hi' : i < 16 := hi
  rw [UInt16.toNat_or, Nat.testBit_or, UInt16.toNat_shiftLeft, toNat_ofNat_mod hk,
    UInt16.toNat_one, Nat.one_shiftLeft, Nat.testBit_mod_two_pow, Nat.testBit_two_pow,
    Bool.or_eq_true, eq_comm (a := i)]
  simp [hi']

/-! ## The five ways -/

/-- What may become of a window to which a number is fed, and which bits are set then. -/
inductive Feeds (w : Window) (s : UInt32) : Option Window → Prop where
  /-- A number above the highest moves the window. -/
  | moved {w' : Window} (hs : w.highest.toNat < s.toNat) (hh : w'.highest = s)
      (hseen : ∀ i < width, w'.seen i = true ↔ i = 0 ∨
        s.toNat - w.highest.toNat ≤ i ∧ w.seen (i - (s.toNat - w.highest.toNat)) = true) :
      Feeds w s (some w')
  /-- A number of the window that was not seen is noted. -/
  | filled {w' : Window} (hs : s.toNat ≤ w.highest.toNat)
      (hnear : w.highest.toNat < s.toNat + width)
      (hnew : w.seen (w.highest.toNat - s.toNat) = false) (hh : w'.highest = w.highest)
      (hseen : ∀ i < width, w'.seen i = true ↔
        w.seen i = true ∨ i = w.highest.toNat - s.toNat) :
      Feeds w s (some w')
  /-- A number of the window that was seen is refused. -/
  | repeated (hs : s.toNat ≤ w.highest.toNat) (hnear : w.highest.toNat < s.toNat + width)
      (hold : w.seen (w.highest.toNat - s.toNat) = true) : Feeds w s none
  /-- A window at the end of the numbers starts again in their lower half. -/
  | restarted {w' : Window} (hfar : s.toNat + width ≤ w.highest.toNat)
      (hend : UInt32.size - 1 - width < w.highest.toNat) (hlow : s.toNat < 2 ^ 31)
      (hh : w'.highest = s) (hseen : ∀ i < width, w'.seen i = true ↔ i = 0) :
      Feeds w s (some w')
  /-- Any other number behind the window is refused. -/
  | behind (hfar : s.toNat + width ≤ w.highest.toNat)
      (hmid : ¬ (UInt32.size - 1 - width < w.highest.toNat ∧ s.toNat < 2 ^ 31)) : Feeds w s none

/-- **A window takes a number in one of the five ways.** -/
theorem feeds_accept? (w : Window) (s : UInt32) : Feeds w s (w.accept? s) := by
  unfold accept?
  split
  · exact .moved (UInt32.lt_iff_toNat_lt.mp ‹_›) rfl fun i hi => testBit_shifted w.bitmap hi
  rename_i hle
  have hs : s.toNat ≤ w.highest.toNat := Nat.not_lt.mp fun h => hle (UInt32.lt_iff_toNat_lt.mpr h)
  split
  · rename_i hnear
    have hnear' : w.highest.toNat < s.toNat + width := by omega
    cases hseen : w.seen (w.highest.toNat - s.toNat) with
    | true => exact .repeated hs hnear' hseen
    | false => exact .filled hs hnear' hseen rfl fun i hi => testBit_marked w.bitmap hnear hi
  · rename_i hfar
    have hfar' : s.toNat + width ≤ w.highest.toNat := by
      simp only [width] at hfar ⊢
      omega
    split
    · rename_i hwrap
      exact .restarted hfar' hwrap.1 (UInt32.lt_iff_toNat_lt.mp hwrap.2) rfl fun i _ =>
        Nat.testBit_one_eq_true_iff_self_eq_zero
    · rename_i hmid
      exact .behind hfar' fun h => hmid ⟨h.1, UInt32.lt_iff_toNat_lt.mpr h.2⟩

/-! ## Numbers that are barred -/

/-- Whether a number starts the window again. -/
def wraps (w : Window) (s : UInt32) : Bool :=
  s.toNat + width ≤ w.highest.toNat ∧ UInt32.size - 1 - width < w.highest.toNat ∧ s.toNat < 2 ^ 31

/-- A number was seen or is behind the window, so that it can only start it again. -/
def Barred (w : Window) (s : UInt32) : Prop :=
  s.toNat ≤ w.highest.toNat ∧
    (w.highest.toNat < s.toNat + width → w.seen (w.highest.toNat - s.toNat) = true)

lemma Barred.wraps (h : w.Barred s) (hs : (w.accept? s).isSome = true) : w.wraps s = true := by
  obtain ⟨hle, hseen⟩ := h
  have hfeeds := feeds_accept? w s
  obtain ⟨w', hw'⟩ := Option.isSome_iff_exists.mp hs
  rw [hw'] at hfeeds
  cases hfeeds with
  | moved habove => exact absurd habove (Nat.not_lt.mpr hle)
  | filled _ hnear hnew =>
      rw [hseen hnear] at hnew
      contradiction
  | restarted hfar hend hlow => exact decide_eq_true ⟨hfar, hend, hlow⟩

/-- A number that was accepted is barred. -/
lemma barred_of_accept? {w' : Window} (h : w.accept? s = some w') : w'.Barred s := by
  have hfeeds := feeds_accept? w s
  rw [h] at hfeeds
  cases hfeeds with
  | moved _ hh hseen =>
      refine ⟨Nat.le_of_eq (by rw [hh]), fun _ => ?_⟩
      rw [hh, Nat.sub_self]
      exact (hseen 0 (by decide)).mpr (.inl rfl)
  | restarted _ _ _ hh hseen =>
      refine ⟨Nat.le_of_eq (by rw [hh]), fun _ => ?_⟩
      rw [hh, Nat.sub_self]
      exact (hseen 0 (by decide)).mpr rfl
  | filled hle hnear _ hh hseen =>
      refine ⟨by rwa [hh], fun _ => ?_⟩
      rw [hh, hseen _ (by omega)]
      exact .inr rfl

/-- What is barred stays so as long as the window does not start again. -/
lemma Barred.accept? {t : UInt32} {w' : Window} (h : w.Barred s) (ht : w.accept? t = some w')
    (hwraps : w.wraps t = false) : w'.Barred s := by
  obtain ⟨hle, hold⟩ := h
  have hfeeds := feeds_accept? w t
  rw [ht] at hfeeds
  cases hfeeds with
  | moved habove hh hseen =>
      refine ⟨by rw [hh]; omega, fun hnear => ?_⟩
      rw [hh] at hnear ⊢
      refine (hseen _ (by omega)).mpr (.inr ⟨by omega, ?_⟩)
      rw [show t.toNat - s.toNat - (t.toNat - w.highest.toNat) = w.highest.toNat - s.toNat by omega]
      exact hold (by omega)
  | filled _ _ _ hh hseen =>
      refine ⟨by rwa [hh], fun hnear => ?_⟩
      rw [hh] at hnear ⊢
      exact (hseen _ (by omega)).mpr (.inl (hold hnear))
  | restarted hfar hend hlow =>
      rw [Window.wraps, decide_eq_false_iff_not] at hwraps
      exact absurd ⟨hfar, hend, hlow⟩ hwraps

/-- The window after a run of numbers. -/
def run (w : Window) (ss : List UInt32) : Window := ss.foldl feed w

lemma feed_of_some {w' : Window} (h : w.accept? s = some w') : w.feed s = w' := by
  rw [feed, h, Option.getD_some]

lemma feed_of_none (h : w.accept? s = none) : w.feed s = w := by
  rw [feed, h, Option.getD_none]

end Window

/-! ## Packed windows -/

namespace PackedWindow

/-- Nothing is lost in the word. -/
@[simp] lemma window_ofWindow (w : Window) : (ofWindow w).window = w := by
  have hh : w.highest.toNat < 2 ^ 32 := w.highest.toNat_lt
  have hb : w.bitmap.toNat < 2 ^ 16 := w.bitmap.toNat_lt
  have hword : ((w.highest.toUInt64 <<< 16) ||| w.bitmap.toUInt64).toNat =
      2 ^ 16 * w.highest.toNat + w.bitmap.toNat := by
    have hmul : w.highest.toNat <<< 16 % 2 ^ 64 = 2 ^ 16 * w.highest.toNat := by
      rw [Nat.shiftLeft_eq, Nat.mul_comm]
      omega
    rw [UInt64.toNat_or, UInt64.toNat_shiftLeft, UInt32.toNat_toUInt64, UInt16.toNat_toUInt64]
    exact (congrArg (· ||| w.bitmap.toNat) hmul).trans (Nat.two_pow_add_eq_or_of_lt hb _).symm
  have hhigh : ((ofWindow w).word >>> 16).toUInt32 = w.highest := by
    apply UInt32.toNat_inj.mp
    rw [UInt64.toNat_toUInt32, UInt64.toNat_shiftRight, ofWindow, hword]
    show (2 ^ 16 * w.highest.toNat + w.bitmap.toNat) >>> 16 % 2 ^ 32 = _
    rw [Nat.shiftRight_eq_div_pow]
    omega
  have hlow : (ofWindow w).word.toUInt16 = w.bitmap := by
    apply UInt16.toNat_inj.mp
    rw [UInt64.toNat_toUInt16, ofWindow, hword]
    omega
  rw [window, hhigh, hlow]

/-- The packed window after a run of numbers. -/
def run (p : PackedWindow) (ss : List UInt32) : PackedWindow := ss.foldl feed p

/-- A packed window accepts what its window does. -/
lemma isSome_accept? (p : PackedWindow) (s : UInt32) :
    (p.accept? s).isSome = (p.window.accept? s).isSome :=
  Option.isSome_map

lemma window_of_accept? {p p' : PackedWindow} {s : UInt32} (h : p.accept? s = some p') :
    p.window.accept? s = some p'.window := by
  obtain ⟨w, hw, rfl⟩ := Option.map_eq_some_iff.mp h
  rw [hw, window_ofWindow]

lemma window_feed (p : PackedWindow) (s : UInt32) : (p.feed s).window = p.window.feed s := by
  rw [feed, Window.feed, accept?]
  cases p.window.accept? s with
  | none => rfl
  | some w => exact window_ofWindow w

/-- **A packed window runs as its window does.** -/
theorem window_run (p : PackedWindow) (ss : List UInt32) : (p.run ss).window = p.window.run ss := by
  induction ss generalizing p with
  | nil => rfl
  | cons s ss ih =>
      show ((p.feed s).run ss).window = (p.window.feed s).run ss
      rw [ih, window_feed]

end PackedWindow

end MeteredRelay
