import MeteredRelay.Bytes

/-!
# Comparison that looks at every byte

Secrets are compared without stopping at the first difference: the differences of all positions
are collected before anything is decided.  **`sameBytes_iff`** says that this is equality.
-/

namespace MeteredRelay

/-- Whether two byte strings are equal, deciding only after every position was looked at. -/
def sameBytes (a b : Bytes) : Bool :=
  a.length == b.length && (List.zipWith (· ^^^ ·) a b).foldl (· ||| ·) 0 == 0

theorem foldl_or_eq_zero_iff (l : Bytes) (acc : UInt8) :
    l.foldl (· ||| ·) acc = 0 ↔ acc = 0 ∧ ∀ x ∈ l, x = 0 := by
  induction l generalizing acc with
  | nil => simp
  | cons x r ih => simp [ih, UInt8.or_eq_zero_iff, and_assoc]

theorem forall_zipWith_xor_eq_zero_iff : ∀ {a b : Bytes}, a.length = b.length →
    ((∀ x ∈ List.zipWith (· ^^^ ·) a b, x = 0) ↔ a = b)
  | [], [], _ => by simp
  | x :: a, y :: b, h => by
    have ih := forall_zipWith_xor_eq_zero_iff (a := a) (b := b) (by simpa using h)
    simp [ih]

/-- Comparing all positions is equality. -/
theorem sameBytes_iff (a b : Bytes) : sameBytes a b = true ↔ a = b := by
  simp only [sameBytes, Bool.and_eq_true, beq_iff_eq, foldl_or_eq_zero_iff, true_and]
  constructor
  · rintro ⟨hl, hz⟩
    exact (forall_zipWith_xor_eq_zero_iff hl).mp hz
  · rintro rfl
    exact ⟨rfl, (forall_zipWith_xor_eq_zero_iff rfl).mpr rfl⟩

end MeteredRelay
