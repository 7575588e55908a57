/-!
# The receive window

Datagrams may be lost, repeated and reordered.  A window remembers the highest sequence number
accepted so far and, in sixteen bits, which of the sixteen numbers up to it were seen; bit `i`
stands for `highest - i`.  A number above the highest is accepted and moves the window; one inside
it is accepted once; one behind it is refused, except that a window within sixteen of the end of
the 32-bit numbers starts again at any number of the lower half.

`Window.accept?` gives the window after an accepted number, or nothing for a refused one.
-/

namespace MeteredRelay

/-- The highest accepted number and the sixteen numbers up to it. -/
structure Window where
  highest : UInt32
  bitmap : UInt16
deriving DecidableEq, Inhabited

namespace Window

/-- The numbers that a window covers. -/
def width : Nat := 16

/-- Nothing seen yet. -/
def start : Window := ⟨0, 0⟩

/-- Whether the number `i` below the highest was seen. -/
def seen (w : Window) (i : Nat) : Bool := w.bitmap.toNat.testBit i

/-- The bits after the highest number rose by `d`: all older ones are forgotten from the width on,
and the new highest is seen. -/
def shifted (bitmap : UInt16) (d : Nat) : UInt16 :=
  (if d < width then bitmap <<< UInt16.ofNat d else 0) ||| 1

/-- The window after `s`, if `s` is accepted. -/
def accept? (w : Window) (s : UInt32) : Option Window :=
  if w.highest < s then
    some ⟨s, shifted w.bitmap (s.toNat - w.highest.toNat)⟩
  else if w.highest.toNat - s.toNat < width then
    if w.seen (w.highest.toNat - s.toNat) then none
    else some { w with bitmap := w.bitmap ||| (1 <<< UInt16.ofNat (w.highest.toNat - s.toNat)) }
  else if UInt32.size - 1 - width < w.highest.toNat ∧ s < 0x80000000 then
    some ⟨s, 1⟩
  else none

/-- The window after `s`, accepted or not. -/
def feed (w : Window) (s : UInt32) : Window := (w.accept? s).getD w

end Window

/-- A window kept in one word: the highest number above sixteen bits of seen numbers. -/
structure PackedWindow where
  word : UInt64
deriving DecidableEq, Inhabited

namespace PackedWindow

/-- A window packed into a word. -/
def ofWindow (w : Window) : PackedWindow :=
  ⟨(w.highest.toUInt64 <<< 16) ||| w.bitmap.toUInt64⟩

/-- The window in a word. -/
def window (p : PackedWindow) : Window := ⟨(p.word >>> 16).toUInt32, p.word.toUInt16⟩

/-- Nothing seen yet. -/
def start : PackedWindow := ⟨0⟩

/-- The packed window after `s`, if `s` is accepted. -/
def accept? (p : PackedWindow) (s : UInt32) : Option PackedWindow :=
  (p.window.accept? s).map ofWindow

/-- The packed window after `s`, accepted or not. -/
def feed (p : PackedWindow) (s : UInt32) : PackedWindow := (p.accept? s).getD p

end PackedWindow

end MeteredRelay
