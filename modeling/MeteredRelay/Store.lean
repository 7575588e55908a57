/-!
# Stores

A store numbers its rows from zero and never forgets one, so a number names the same row for ever.
Accounts, sessions and connections live in stores: several others refer to each of them, and each
outlives the moment in which the last of these lets go.

The main statements say what is read after a row was added (**`get?_add`**) or changed
(**`get?_modify`**).
-/

namespace MeteredRelay

/-- Rows with numbers. -/
structure Store (α : Type) where
  rows : Array α

namespace Store

variable {α : Type}

/-- A store without rows. -/
def empty : Store α := ⟨#[]⟩

instance : Inhabited (Store α) := ⟨empty⟩

/-- How many rows there are, which is the number of the next. -/
def size (s : Store α) : Nat := s.rows.size

/-- The rows in the order of their numbers. -/
def toList (s : Store α) : List α := s.rows.toList

/-- The row of a number. -/
def get? (s : Store α) (n : Nat) : Option α := s.rows[n]?

/-- The store with one more row, whose number is the former size. -/
def add (s : Store α) (a : α) : Store α := ⟨s.rows.push a⟩

/-- The store with one row changed. -/
def modify (s : Store α) (n : Nat) (f : α → α) : Store α := ⟨s.rows.modify n f⟩

/-- The store with one row replaced. -/
def set (s : Store α) (n : Nat) (a : α) : Store α := s.modify n fun _ => a

@[simp] theorem size_empty : (empty : Store α).size = 0 := rfl

@[simp] theorem size_add (s : Store α) (a : α) : (s.add a).size = s.size + 1 := by
  simp [add, size]

@[simp] theorem size_modify (s : Store α) (n : Nat) (f : α → α) : (s.modify n f).size = s.size := by
  simp [modify, size]

/-- Numbers below the size have rows. -/
theorem get?_isSome_iff {s : Store α} {n : Nat} : (s.get? n).isSome ↔ n < s.size := by
  simp [get?, size]

/-- What is read after a row was added. -/
theorem get?_add (s : Store α) (a : α) (n : Nat) :
    (s.add a).get? n = if n = s.size then some a else s.get? n :=
  Array.getElem?_push

/-- What is read after a row was changed. -/
theorem get?_modify (s : Store α) (m n : Nat) (f : α → α) :
    (s.modify m f).get? n = if m = n then (s.get? n).map f else s.get? n := by
  simp [get?, modify, Array.getElem?_modify]

/-- To change a row into what it is changes nothing. -/
theorem modify_eq_self {s : Store α} {n : Nat} {f : α → α}
    (h : ∀ a, s.get? n = some a → f a = a) : s.modify n f = s := by
  rw [modify, show s.rows.modify n f = s.rows from ?_]
  ext m hm hm'
  · exact Array.size_modify
  · rw [Array.getElem_modify]
    split
    · rename_i hn
      subst hn
      exact h _ (Array.getElem?_eq_getElem hm')
    · rfl

theorem get?_eq_none_of_le {s : Store α} {n : Nat} (h : s.size ≤ n) : s.get? n = none := by
  simpa [get?, size] using h

end Store

end MeteredRelay
