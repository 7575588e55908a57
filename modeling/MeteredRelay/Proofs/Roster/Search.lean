import MeteredRelay.Proofs.Roster.Views

/-!
# How a bind searches for its session

A bind takes the session that an id stands for, or makes one.  If the session is closed, since its
last peer left between the search and the bind, the entry is dropped and the search begins anew.
Nothing counts the rounds (`Searches`): the search ends because the dropped entry is gone, so that
the next round makes a session, and a session that was just made is open.

`Roster.openSession` is how this search ends (**`exists_searches`**), from any roster and after two
rounds at most, and it ends in no other way (`Searches.unique`).
-/

namespace MeteredRelay

namespace Roster

variable {r x y : Roster} {n m : SessionNo} {id : SessionId} {rounds count : Nat}

/-- The session that an id stands for, made if it stands for none. -/
def fetch (r : Roster) (id : SessionId) : Roster × SessionNo :=
  match r.table.get? id with
  | none => r.create id
  | some n => (r, n)

/-- A search for the session of an id, round by round. -/
inductive Searches (id : SessionId) : (rounds : Nat) → Roster → Roster → SessionNo → Prop where
  /-- An open session ends the search. -/
  | found {r x : Roster} {n : SessionNo} (hfetch : r.fetch id = (x, n))
      (hopen : (x.session n).closed = false) : Searches id 1 r x n
  /-- The entry of a closed session is dropped, if there is still one, and the search begins anew. -/
  | again {rounds : Nat} {r x y : Roster} {n m : SessionNo} (hfetch : r.fetch id = (x, n))
      (hclosed : (x.session n).closed = true) (hrest : Searches id rounds (x.forget id n) y m) :
      Searches id (rounds + 1) r y m

/-! ## Rounds -/

lemma fetch_of_some (hn : r.table.get? id = some n) : r.fetch id = (r, n) := by
  simp only [fetch, hn]

lemma fetch_of_none (hn : r.table.get? id = none) : r.fetch id = r.create id := by
  simp only [fetch, hn]

/-- A session that was just made is open. -/
lemma closed_create (r : Roster) (id : SessionId) :
    ((r.create id).1.session (r.create id).2).closed = false := by
  rw [session_create_self]
  rfl

/-- A round that finds a closed session made none. -/
lemma of_fetch_of_closed (hfetch : r.fetch id = (x, n)) (hclosed : (x.session n).closed = true) :
    r.table.get? id = some n ∧ x = r := by
  cases hn : r.table.get? id with
  | some m =>
      rw [fetch_of_some hn] at hfetch
      cases hfetch
      exact ⟨rfl, rfl⟩
  | none =>
      have hopen := closed_create r id
      rw [← fetch_of_none hn, hfetch, hclosed] at hopen
      contradiction

/-- The entry of a session that was dropped is gone. -/
lemma get?_table_forget_self (hn : r.table.get? id = some n) :
    (r.forget id n).table.get? id = none := by
  rw [get?_table_forget, hn]
  simp [Option.filter_some]

lemma searches_of_none (hn : r.table.get? id = none) :
    Searches id 1 r (r.create id).1 (r.create id).2 :=
  .found (fetch_of_none hn) (closed_create r id)

/-- **A search ends after two rounds at most**, whatever is closed. -/
theorem exists_searches (r : Roster) (id : SessionId) :
    ∃ rounds ≤ 2, Searches id rounds r (r.openSession id).1 (r.openSession id).2 := by
  cases hn : r.table.get? id with
  | none =>
      rw [openSession_of_none hn]
      exact ⟨1, by decide, searches_of_none hn⟩
  | some n =>
      cases hclosed : (r.session n).closed with
      | false =>
          have hfirst : r.openSession id = (r, n) := by simp [openSession, openWithin, hn, hclosed]
          rw [hfirst]
          exact ⟨1, by decide, .found (fetch_of_some hn) hclosed⟩
      | true =>
          have hgone := get?_table_forget_self hn
          have hsecond : r.openSession id = (r.forget id n).create id := by
            simp [openSession, openWithin, hn, hclosed, hgone]
          rw [hsecond]
          exact ⟨2, by decide, .again (fetch_of_some hn) hclosed (searches_of_none hgone)⟩

namespace Searches

/-- A search can only end in one way. -/
lemma unique (h : Searches id rounds r x n) (h' : Searches id count r y m) :
    count = rounds ∧ y = x ∧ m = n := by
  induction h generalizing count y m with
  | found hfetch hopen =>
      cases h' with
      | found hfetch' =>
          rw [hfetch] at hfetch'
          cases hfetch'
          exact ⟨rfl, rfl, rfl⟩
      | again hfetch' hclosed' =>
          rw [hfetch] at hfetch'
          cases hfetch'
          rw [hopen] at hclosed'
          contradiction
  | again hfetch hclosed _ ih =>
      cases h' with
      | found hfetch' hopen' =>
          rw [hfetch] at hfetch'
          cases hfetch'
          rw [hclosed] at hopen'
          contradiction
      | again hfetch' _ hrest' =>
          rw [hfetch] at hfetch'
          cases hfetch'
          obtain ⟨rfl, rfl, rfl⟩ := ih hrest'
          exact ⟨rfl, rfl, rfl⟩

/-- The session that a search ends with is open. -/
lemma closed_eq_false (h : Searches id rounds r x n) : (x.session n).closed = false := by
  induction h with
  | found _ hopen => exact hopen
  | again _ _ _ ih => exact ih

/-- What is kept when a session is made for an id that stands for none, and when an entry is dropped,
is kept by a search. -/
lemma keeps {P : Roster → Prop} (h : Searches id rounds r x n)
    (hcreate : ∀ r, r.table.get? id = none → P r → P (r.create id).1)
    (hforget : ∀ r n, P r → P (r.forget id n)) (hr : P r) : P x := by
  induction h with
  | @found r x n hfetch _ =>
      cases hn : r.table.get? id with
      | some m =>
          rw [fetch_of_some hn] at hfetch
          cases hfetch
          exact hr
      | none =>
          have hmade := hcreate r hn hr
          rwa [← fetch_of_none hn, hfetch] at hmade
  | again hfetch hclosed _ ih =>
      obtain ⟨-, rfl⟩ := of_fetch_of_closed hfetch hclosed
      exact ih (hforget _ _ hr)

/-- The id stands for the session that its search ends with. -/
lemma get?_table (h : Searches id rounds r x n) : x.table.get? id = some n := by
  induction h with
  | @found r x n hfetch _ =>
      cases hn : r.table.get? id with
      | some m =>
          rw [fetch_of_some hn] at hfetch
          cases hfetch
          exact hn
      | none =>
          have hmade := get?_table_create_self r id
          rwa [← fetch_of_none hn, hfetch] at hmade
  | again _ _ _ ih => exact ih

end Searches

end Roster

end MeteredRelay
