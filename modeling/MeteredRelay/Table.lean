/-!
# Tables

A table holds at most one value for a key.  It keeps its entries in the order in which the keys
came, and a new value takes the place of the old one.  That no key occurs twice is part of the
type, so the number of entries is the number of keys.

The main statements say what is read after a value was entered (**`get?_insert`**), removed
(**`get?_erase`**) or sifted (**`get?_filter`**), and how the number of entries changes
(**`size_insert`**, **`size_erase`**).
-/

namespace MeteredRelay

/-- At most one value for each key. -/
structure Table (κ α : Type) where
  /-- Keys and values, in the order in which the keys came. -/
  entries : List (κ × α)
  nodup : (entries.map Prod.fst).Nodup

namespace Table

variable {κ α : Type}

/-- A table without entries. -/
def empty : Table κ α := ⟨[], List.nodup_nil⟩

instance : Inhabited (Table κ α) := ⟨empty⟩

/-- The number of entries. -/
def size (t : Table κ α) : Nat := t.entries.length

/-- The keys. -/
def keys (t : Table κ α) : List κ := t.entries.map Prod.fst

/-- The values. -/
def values (t : Table κ α) : List α := t.entries.map Prod.snd

@[ext] theorem ext {s t : Table κ α} (h : s.entries = t.entries) : s = t := by
  cases s; cases t; cases h; rfl

/-- The entries that pass a test. -/
def filter (t : Table κ α) (p : κ → α → Bool) : Table κ α where
  entries := t.entries.filter fun e => p e.1 e.2
  nodup := t.nodup.sublist (List.filter_sublist.map _)

variable [DecidableEq κ]

/-- The value in a list of entries. -/
@[specialize] def find (k : κ) : List (κ × α) → Option α
  | [] => none
  | e :: r => if e.1 = k then some e.2 else find k r

/-- The entries with a value put in the place of the old one, or at the end. -/
@[specialize] def put (k : κ) (v : α) : List (κ × α) → List (κ × α)
  | [] => [(k, v)]
  | e :: r => if e.1 = k then (k, v) :: r else e :: put k v r

theorem map_fst_put (k : κ) (v : α) (l : List (κ × α)) :
    (put k v l).map Prod.fst =
      if k ∈ l.map Prod.fst then l.map Prod.fst else l.map Prod.fst ++ [k] := by
  induction l with
  | nil => simp [put]
  | cons e r ih =>
    obtain ⟨x, w⟩ := e
    by_cases hx : x = k
    · simp [put, hx]
    · have hk : k ≠ x := fun h => hx h.symm
      simp only [put, if_neg hx, List.map_cons, List.mem_cons, hk, false_or, ih]
      split <;> simp

theorem nodup_put (k : κ) (v : α) {l : List (κ × α)} (h : (l.map Prod.fst).Nodup) :
    ((put k v l).map Prod.fst).Nodup := by
  rw [map_fst_put]
  split
  · exact h
  · rename_i hk
    refine List.nodup_append.mpr ⟨h, by simp, ?_⟩
    rintro a ha b hb rfl
    exact hk (by rw [List.mem_singleton] at hb; exact hb ▸ ha)

/-- The value of a key. -/
@[inline] def get? (t : Table κ α) (k : κ) : Option α := find k t.entries

/-- Whether a key has a value. -/
def contains (t : Table κ α) (k : κ) : Bool := (t.get? k).isSome

/-- The table with this value for a key. -/
@[inline] def insert (t : Table κ α) (k : κ) (v : α) : Table κ α := ⟨put k v t.entries, nodup_put k v t.nodup⟩

/-- The table without a key. -/
def erase (t : Table κ α) (k : κ) : Table κ α := t.filter fun x _ => x ≠ k

/-! ## What is read -/

theorem find_eq_none_iff {k : κ} {l : List (κ × α)} : find k l = none ↔ k ∉ l.map Prod.fst := by
  induction l with
  | nil => simp [find]
  | cons e r ih =>
    obtain ⟨x, w⟩ := e
    by_cases hx : x = k
    · simp [find, hx]
    · have hk : k ≠ x := fun h => hx h.symm
      simp only [find, if_neg hx, ih, List.map_cons, List.mem_cons, hk, false_or]

theorem find_put (k j : κ) (v : α) (l : List (κ × α)) :
    find j (put k v l) = if k = j then some v else find j l := by
  induction l with
  | nil => simp [put, find]
  | cons e r ih =>
    obtain ⟨x, w⟩ := e
    by_cases hx : x = k
    · subst hx
      simp only [put, if_pos, find]
      split <;> rfl
    · simp only [put, if_neg hx, find, ih]
      by_cases hj : x = j
      · subst hj
        simp [Ne.symm hx]
      · simp [hj]

theorem find_eq_some_iff {k : κ} {v : α} {l : List (κ × α)} (h : (l.map Prod.fst).Nodup) :
    find k l = some v ↔ (k, v) ∈ l := by
  induction l with
  | nil => simp [find]
  | cons e r ih =>
    obtain ⟨x, w⟩ := e
    rw [List.map_cons, List.nodup_cons] at h
    by_cases hx : x = k
    · subst hx
      have hr : (x, v) ∉ r := fun m => h.1 (List.mem_map.mpr ⟨_, m, rfl⟩)
      simp [find, hr, eq_comm]
    · have hk : k ≠ x := fun e => hx e.symm
      simp [find, hx, hk, ih h.2]

/-- A key has a value exactly when the pair is an entry. -/
theorem get?_eq_some_iff {t : Table κ α} {k : κ} {v : α} :
    t.get? k = some v ↔ (k, v) ∈ t.entries :=
  find_eq_some_iff t.nodup

theorem get?_eq_none_iff {t : Table κ α} {k : κ} : t.get? k = none ↔ k ∉ t.keys :=
  find_eq_none_iff

@[simp] theorem get?_empty (k : κ) : (empty : Table κ α).get? k = none := rfl

/-- What is read after a value was entered. -/
theorem get?_insert (t : Table κ α) (k j : κ) (v : α) :
    (t.insert k v).get? j = if k = j then some v else t.get? j :=
  find_put k j v t.entries

/-- What is read after a table was sifted. -/
theorem get?_filter (t : Table κ α) (p : κ → α → Bool) (k : κ) :
    (t.filter p).get? k = (t.get? k).filter (p k) := by
  apply Option.ext
  intro v
  simp only [get?_eq_some_iff, filter, List.mem_filter, Option.filter_eq_some_iff]

/-- What is read after a key was removed. -/
theorem get?_erase (t : Table κ α) (k j : κ) :
    (t.erase k).get? j = if k = j then none else t.get? j := by
  rw [erase, get?_filter]
  by_cases h : k = j
  · subst h
    cases t.get? k <;> simp
  · have h' : j ≠ k := fun e => h e.symm
    cases t.get? j <;> simp [h, h']

/-- A key that has no value is removed already. -/
theorem erase_of_none {t : Table κ α} {k : κ} (h : t.get? k = none) : t.erase k = t := by
  refine ext (List.filter_eq_self.mpr fun e he => decide_eq_true ?_)
  rintro rfl
  exact get?_eq_none_iff.mp h (List.mem_map_of_mem he)

/-! ## How many entries there are -/

theorem length_put (k : κ) (v : α) (l : List (κ × α)) :
    (put k v l).length = l.length + if k ∈ l.map Prod.fst then 0 else 1 := by
  have h := congrArg List.length (map_fst_put k v l)
  rw [List.length_map] at h
  rw [h]
  split <;> simp

/-- A value for a new key is one more entry. -/
theorem size_insert (t : Table κ α) (k : κ) (v : α) :
    (t.insert k v).size = t.size + if (t.get? k).isSome then 0 else 1 := by
  rw [size, insert, length_put]
  cases h : t.get? k with
  | none =>
    have hk : k ∉ t.entries.map Prod.fst := get?_eq_none_iff.mp h
    simp [size, hk]
  | some w =>
    have hk : k ∈ t.entries.map Prod.fst := List.mem_map.mpr ⟨_, get?_eq_some_iff.mp h, rfl⟩
    simp [size, hk]

theorem length_filter_ne {k : κ} {l : List (κ × α)} (h : (l.map Prod.fst).Nodup) :
    (l.filter fun e => decide (e.1 ≠ k)).length + (if k ∈ l.map Prod.fst then 1 else 0) =
      l.length := by
  induction l with
  | nil => rfl
  | cons e r ih =>
    obtain ⟨x, w⟩ := e
    rw [List.map_cons, List.nodup_cons] at h
    have hr := ih h.2
    by_cases hx : x = k
    · subst hx
      simp only [if_neg h.1] at hr
      simp at hr ⊢
      omega
    · have hm : (k ∈ List.map Prod.fst ((x, w) :: r)) ↔ k ∈ List.map Prod.fst r := by
        simp [Ne.symm hx]
      simp only [hm, List.length_cons, List.filter_cons, hx, ne_eq, not_false_eq_true, decide_true,
        if_true] at hr ⊢
      omega

/-- A key removed is one entry less. -/
theorem size_erase (t : Table κ α) (k : κ) :
    (t.erase k).size + (if (t.get? k).isSome then 1 else 0) = t.size := by
  have h := length_filter_ne (k := k) t.nodup
  rw [size, erase, filter, size, ← h]
  cases hg : t.get? k with
  | none =>
    have hk : k ∉ t.entries.map Prod.fst := get?_eq_none_iff.mp hg
    simp [hk]
  | some w =>
    have hk : k ∈ t.entries.map Prod.fst := List.mem_map.mpr ⟨_, get?_eq_some_iff.mp hg, rfl⟩
    simp [hk]

end Table

end MeteredRelay
