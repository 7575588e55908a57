import Mathlib.Data.List.Nodup
import MeteredRelay.Proofs.Window

/-!
# Messages that come a little out of order

A sender counts its messages without end and writes the last thirty-two bits of each index into the
message.  Where the numbers begin again, a window is thrown from the top of the numbers to the
bottom and, by a message that is late, back to the top, and each time it forgets what it saw.

`Tracks` says what holds all the same: the highest number of the window stands for an index that is
less than a width below the largest one that came, and falls behind this only in the first sixteen
numbers of a new count; and a bit that is set stands for an index that came.  So a new index that is
less than a width late, and no further ahead than a width, is accepted (`Tracks.accepts`), and
**`accepts_reordered`** says so of whole runs.
-/

namespace MeteredRelay

namespace Window

/-- The number that stands for an index. -/
def number (k : Int) : UInt32 := .ofNat (k % 2 ^ 32).toNat

/-- Indexes of which each is close to the largest so far: fewer than sixteen below it, or at most
sixteen above. -/
def Near (largest : Int) : List Int → Prop
  | [] => True
  | k :: ks => largest - 16 < k ∧ k ≤ largest + 16 ∧ Near (max largest k) ks

instance decidableNear : (largest : Int) → (ks : List Int) → Decidable (Near largest ks)
  | _, [] => .isTrue trivial
  | largest, k :: ks =>
    have := decidableNear (max largest k) ks
    inferInstanceAs (Decidable (_ ∧ _ ∧ _))

variable {w : Window} {ks : List Int} {k largest top : Int}

lemma toNat_number (k : Int) : ((number k).toNat : Int) = k % 2 ^ 32 := by
  rw [number, UInt32.toNat_ofNat']
  omega

/-- What a window tells of the indexes that came: its highest number stands for `top`. -/
structure Tracks (w : Window) (ks : List Int) (largest top : Int) : Prop where
  highest : (w.highest.toNat : Int) = top % 2 ^ 32
  /-- The window is less than a width behind. -/
  close : largest - 16 < top ∧ top ≤ largest
  /-- It is behind only where the numbers began again. -/
  behind : top = largest ∨ largest % 2 ^ 32 < 16
  seen : ∀ i < width, w.seen i = true → top - i ∈ ks

/-- The first index is accepted, whatever it is. -/
lemma tracks_first (k : Int) :
    ∃ w, start.accept? (number k) = some w ∧ w.Tracks [k] k k := by
  have hfeeds := feeds_accept? start (number k)
  have hnumber := toNat_number k
  have hclose : k - 16 < k ∧ k ≤ k := by omega
  have hempty : ∀ i, start.seen i = false := fun i => Nat.zero_testBit i
  have hzero : start.highest.toNat = 0 := rfl
  have hwidth : width = 16 := rfl
  generalize start.accept? (number k) = o at hfeeds
  cases hfeeds with
  | @moved w' hs hh hseen =>
      refine ⟨w', rfl, by rw [hh, hnumber], hclose, .inl rfl, fun i hi hbit => ?_⟩
      rcases (hseen i hi).mp hbit with rfl | ⟨-, hold⟩
      · simp
      · rw [hempty] at hold
        contradiction
  | @filled w' hs hnear hnew hh hseen =>
      refine ⟨w', rfl, by rw [hh]; omega, hclose, .inl rfl, fun i hi hbit => ?_⟩
      rcases (hseen i hi).mp hbit with hold | rfl
      · rw [hempty] at hold
        contradiction
      · simp [hzero]
  | repeated hs hnear hold =>
      rw [hempty] at hold
      contradiction
  | restarted hfar => omega
  | behind hfar => omega

/-- **A new index that is close to the largest so far is accepted.** -/
theorem Tracks.accepts (h : w.Tracks ks largest top) (hnew : k ∉ ks)
    (hlow : largest - 16 < k) (hhigh : k ≤ largest + 16) :
    ∃ w' top', w.accept? (number k) = some w' ∧ w'.Tracks (k :: ks) (max largest k) top' := by
  rcases h with ⟨hhighest, hclose, hbehind, hbits⟩
  have hfeeds := feeds_accept? w (number k)
  have hnumber := toNat_number k
  have hwidth : width = 16 := rfl
  have hsize : UInt32.size = 2 ^ 32 := rfl
  generalize w.accept? (number k) = o at hfeeds
  cases hfeeds with
  | @moved w' hs hh hseen =>
      -- the index passed `top`, or is late and throws the window back to the end of the numbers
      refine ⟨w', k, rfl, by rw [hh, hnumber], by omega, by omega, fun i hi hbit => ?_⟩
      rcases (hseen i hi).mp hbit with rfl | ⟨hle, hold⟩
      · simp
      · have hmem := hbits _ (by omega) hold
        have heq : k - i = top - (i - ((number k).toNat - w.highest.toNat) : Nat) := by omega
        rw [heq]
        exact List.mem_cons_of_mem _ hmem
  | @filled w' hs hnear hfresh hh hseen =>
      refine ⟨w', top, rfl, by rw [hh, hhighest], by omega, by omega, fun i hi hbit => ?_⟩
      rcases (hseen i hi).mp hbit with hold | rfl
      · exact List.mem_cons_of_mem _ (hbits i hi hold)
      · have heq : top - (w.highest.toNat - (number k).toNat : Nat) = k := by omega
        rw [heq]
        exact List.mem_cons_self
  | repeated hs hnear hold =>
      -- the bit would stand for an index that came, and this is the new one
      have hmem := hbits _ (by omega) hold
      have heq : top - (w.highest.toNat - (number k).toNat : Nat) = k := by omega
      exact absurd (heq ▸ hmem) hnew
  | @restarted w' hfar hend hlower hh hseen =>
      -- the index is of the new count, and the window still, or again, at the end of the last
      refine ⟨w', k, rfl, by rw [hh, hnumber], by omega, by omega, fun i hi hbit => ?_⟩
      rw [(hseen i hi).mp hbit]
      simp
  | behind hfar hmid =>
      -- a window that is so far above is at the end of the numbers
      exact absurd ⟨by omega, by omega⟩ hmid

end Window

namespace PackedWindow

/-- Each number of a list is accepted after those before it. -/
def AcceptsAll (p : PackedWindow) : List UInt32 → Prop
  | [] => True
  | s :: ss => (p.accept? s).isSome ∧ (p.feed s).AcceptsAll ss

/-- What the window accepts, the packed window accepts, and it holds the window after that. -/
lemma accept?_of_window {p : PackedWindow} {s : UInt32} {w : Window}
    (h : p.window.accept? s = some w) : (p.accept? s).isSome ∧ (p.feed s).window = w := by
  rw [isSome_accept?, h, window_feed, Window.feed_of_some h]
  exact ⟨rfl, rfl⟩

lemma acceptsAll_of_tracks {p : PackedWindow} {seen ks : List Int} {largest top : Int}
    (h : p.window.Tracks seen largest top) (hnew : ∀ k ∈ ks, k ∉ seen) (hdistinct : ks.Nodup)
    (hnear : Window.Near largest ks) : p.AcceptsAll (ks.map Window.number) := by
  induction ks generalizing p seen largest top with
  | nil => trivial
  | cons k ks ih =>
      rcases List.nodup_cons.mp hdistinct with ⟨hk, hks⟩
      rcases hnear with ⟨hlow, hhigh, hnear⟩
      rcases h.accepts (hnew k List.mem_cons_self) hlow hhigh with ⟨w, top', hw, htracks⟩
      rcases accept?_of_window hw with ⟨haccepted, hwindow⟩
      refine ⟨haccepted, ih (hwindow ▸ htracks) (fun j hj => ?_) hks hnear⟩
      rw [List.mem_cons, not_or]
      exact ⟨fun e => hk (e ▸ hj), hnew j (List.mem_cons_of_mem _ hj)⟩

/-- **No message is refused that is new and a little out of order.**  However often the numbers
begin again, a window that starts afresh accepts every index of a list without repetitions in which
each is close to the largest before it. -/
theorem accepts_reordered (k : Int) (ks : List Int) (hdistinct : (k :: ks).Nodup)
    (hnear : Window.Near k ks) : start.AcceptsAll ((k :: ks).map Window.number) := by
  rcases List.nodup_cons.mp hdistinct with ⟨hk, hks⟩
  rcases Window.tracks_first k with ⟨w, hw, htracks⟩
  rcases accept?_of_window (p := start) hw with ⟨haccepted, hwindow⟩
  refine ⟨haccepted, acceptsAll_of_tracks (hwindow ▸ htracks) (fun j hj => ?_) hks hnear⟩
  rw [List.mem_singleton]
  exact fun e => hk (e ▸ hj)

/-- Indexes that go back and forth over the end of the numbers. -/
def crossing : List Int :=
  [2 ^ 32 + 3, 2 ^ 32 - 9, 2 ^ 32 + 2, 2 ^ 32 - 11, 2 ^ 32 - 1, 2 ^ 32 + 19, 2 ^ 32 + 4]

theorem accepts_reordered_crossing :
    ((2 ^ 32 - 2) :: crossing).Nodup ∧ Window.Near (2 ^ 32 - 2) crossing ∧
      start.AcceptsAll (((2 ^ 32 - 2) :: crossing).map Window.number) :=
  ⟨by decide, by decide, accepts_reordered (2 ^ 32 - 2) crossing (by decide) (by decide)⟩

end PackedWindow

end MeteredRelay
