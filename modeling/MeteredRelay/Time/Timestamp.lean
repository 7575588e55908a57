import MeteredRelay.Time.Moment

/-!
# Timestamps

A timestamp is an instant that may be unset, kept in one word: the nanoseconds since a base
instant, plus one, so that zero stands for unset.  Instants before the base count as the base.
Instants that the word cannot hold count as the last that it can; the one just past that adds up
to a full word and reads as unset.

**`load_store`** says what is read after an instant was stored.
-/

namespace MeteredRelay

/-- An instant that may be unset, relative to a base. -/
structure Timestamp where
  base : Instant
  code : UInt64
deriving DecidableEq, Inhabited

namespace Timestamp

/-- Unset. -/
def unset (base : Instant) : Timestamp := ⟨base, 0⟩

/-- The word that stands for an instant. -/
def encode (base t : Instant) : UInt64 :=
  (if t.since base < UInt64.size then UInt64.ofNat (t.since base) else 0xfffffffffffffffe) + 1

/-- Stores an instant. -/
def store (s : Timestamp) (t : Instant) : Timestamp := { s with code := encode s.base t }

/-- Set to an instant. -/
def at_ (base t : Instant) : Timestamp := (unset base).store t

/-- The instant, if it is set. -/
def load (s : Timestamp) : Option Instant :=
  if s.code = 0 then none else some (s.base + (s.code.toNat - 1 : Nat))

/-- What is read, and the timestamp after an instant was stored over it. -/
def swap (s : Timestamp) (t : Instant) : Option Instant × Timestamp := (s.load, s.store t)

/-- What is read after an instant was stored. -/
theorem load_store (s : Timestamp) (t : Instant) (h : t.since s.base < UInt64.size - 1) :
    (s.store t).load = some (s.base + (t.since s.base : Nat)) := by
  have hs : UInt64.size = 18446744073709551616 := rfl
  have hn : (encode s.base t).toNat = t.since s.base + 1 := by
    rw [encode, if_pos (by omega), UInt64.toNat_add, UInt64.toNat_ofNat', UInt64.toNat_one,
      Nat.mod_eq_of_lt (a := t.since s.base) (by omega), Nat.mod_eq_of_lt (by omega)]
  have h0 : encode s.base t ≠ 0 := fun e => by
    rw [e] at hn
    simp at hn
  rw [load, store, if_neg h0, hn]
  simp

end Timestamp

end MeteredRelay
