import MeteredRelay.Proofs.Roster.Act
import MeteredRelay.Proofs.Session

/-!
# What the parts of a roster operation do

The operations of a roster are put together from a few parts: a session is changed, made, forgotten
or left, and a connection comes to know a binding or no longer does.  For each part this file says
what is read from it afterwards, so that the operations need not be opened again.

The two parts with an argument in them are **`session_remove`** and **`get?_table_remove`**: a
session that loses its last peer, and only such a one, loses its entry.
-/

namespace MeteredRelay

/-- What is read after a key was removed that had a certain value. -/
lemma Table.get?_erase_if_eq {κ α : Type} [DecidableEq κ] [DecidableEq α] (t : Table κ α) (k j : κ)
    (v : α) : (if t.get? k = some v then t.erase k else t).get? j =
      (t.get? j).filter fun w => ¬ (w = v ∧ k = j) := by
  by_cases hj : k = j
  · subst hj
    split
    · rename_i h
      simp [Table.get?_erase, h, Option.filter_some]
    · rename_i h
      cases hg : t.get? k with
      | none => rfl
      | some w =>
          have hw : w ≠ v := fun e => h (by rw [hg, e])
          simp [Option.filter_some, hw]
  · have ht : (if t.get? k = some v then t.erase k else t).get? j = t.get? j := by
      split
      · rw [Table.get?_erase, if_neg hj]
      · rfl
    rw [ht]
    cases t.get? j <;> simp [Option.filter_some, hj]

namespace Roster

variable {r : Roster} {n m : SessionNo} {f : Session → Session} {b : Binding} {id : SessionId}
  {p : PeerId} {seat : Seat}

/-! ## Sessions -/

/-- A session is read from the sessions alone. -/
lemma session_congr {x : Roster} (h : r.sessions = x.sessions) (n : SessionNo) :
    r.session n = x.session n := by
  rw [session, h, session]

/-- A number that stands for no session reads as an empty one. -/
lemma session_of_le (h : r.sessions.size ≤ n) : r.session n = default := by
  rw [session, Store.get?_eq_none_of_le h, Option.getD_none]

/-- Only sessions that there are have bindings. -/
lemma lt_size_of_mem (h : b ∈ (r.session n).bindings) : n < r.sessions.size := by
  by_contra hn
  rw [session_of_le (Nat.not_lt.mp hn)] at h
  exact List.not_mem_nil h

lemma lt_size_of_ne_nil (h : (r.session n).bindings ≠ []) : n < r.sessions.size :=
  let ⟨_, hb⟩ := List.exists_mem_of_ne_nil _ h
  lt_size_of_mem hb

/-- What a session is after one was changed. -/
lemma session_changeSession (h : n < r.sessions.size) (f : Session → Session) (m : SessionNo) :
    (r.changeSession n f).session m = if m = n then f (r.session n) else r.session m := by
  simp only [session, changeSession, Store.get?_modify, eq_comm (a := m)]
  split
  · subst m
    rcases Option.isSome_iff_exists.mp (Store.get?_isSome_iff.mpr h) with ⟨s, hs⟩
    simp [hs]
  · rfl

/-- To change a session changes no other. -/
lemma session_changeSession_of_ne (h : m ≠ n) : (r.changeSession n f).session m = r.session m := by
  simp [session, changeSession, Store.get?_modify, h.symm]

/-- A change that keeps some datum of every session keeps it in the roster. -/
lemma session_changeSession_congr {α : Type} (g : Session → α) (hf : ∀ s, g (f s) = g s)
    (n m : SessionNo) : g ((r.changeSession n f).session m) = g (r.session m) := by
  by_cases h : n < r.sessions.size
  · rw [session_changeSession h]
    split
    · subst m
      exact hf _
    · rfl
  · simp only [session, changeSession, Store.get?_modify]
    split
    · subst m
      rw [Store.get?_eq_none_of_le (Nat.not_lt.mp h)]
      rfl
    · rfl

/-- To change a session into what it is changes nothing. -/
lemma changeSession_eq_self {f : Session → Session} (h : f (r.session n) = r.session n) :
    r.changeSession n f = r := by
  rw [changeSession, Store.modify_eq_self]
  intro s hs
  rwa [session, hs] at h

@[simp] lemma size_changeSession : (r.changeSession n f).sessions.size = r.sessions.size :=
  Store.size_modify ..

@[simp] lemma table_changeSession : (r.changeSession n f).table = r.table := rfl
@[simp] lemma joined_changeSession : (r.changeSession n f).joined = r.joined := rfl

/-- What a session is after one was made. -/
lemma session_create (id : SessionId) (m : SessionNo) :
    (r.create id).1.session m = if m = r.sessions.size then .start id else r.session m := by
  simp only [session, create, Store.get?_add]
  split <;> rfl

lemma session_create_self (r : Roster) (id : SessionId) :
    (r.create id).1.session (r.create id).2 = .start id := by
  rw [session_create, if_pos (by rfl)]

/-- The new session takes the entry of its id, whatever stood there. -/
lemma get?_table_create_self (r : Roster) (id : SessionId) :
    (r.create id).1.table.get? id = some (r.create id).2 :=
  (Table.get?_insert r.table id id r.sessions.size).trans (if_pos rfl)

/-! ## Connections -/

@[simp] lemma sessions_join : (r.join b).sessions = r.sessions := rfl
@[simp] lemma table_join : (r.join b).table = r.table := rfl
@[simp] lemma session_join : (r.join b).session n = r.session n := rfl

/-- A connection knows the binding that it joined last for a peer. -/
lemma get?_joined_join :
    (r.join b).joined.get? seat = if ⟨b.link, b.peer⟩ = seat then some b else r.joined.get? seat :=
  Table.get?_insert ..

@[simp] lemma sessions_part : (r.part b).sessions = r.sessions := by
  unfold part; split <;> rfl

@[simp] lemma table_part : (r.part b).table = r.table := by
  unfold part; split <;> rfl

@[simp] lemma session_part : (r.part b).session n = r.session n := by
  simp [session]

/-- A binding is forgotten by its connection only if that knows this very one. -/
lemma get?_joined_part :
    (r.part b).joined.get? seat = (r.joined.get? seat).filter fun a =>
      ¬ (a = b ∧ ⟨b.link, b.peer⟩ = seat) := by
  rw [← Table.get?_erase_if_eq]
  simp only [part]
  split <;> rfl

/-! ## Sessions that lose a peer -/

@[simp] lemma sessions_forceListing : (r.forceListing n).sessions = r.sessions := by
  unfold forceListing; split <;> rfl

@[simp] lemma table_forceListing : (r.forceListing n).table = r.table := by
  unfold forceListing; split <;> rfl

@[simp] lemma joined_forceListing : (r.forceListing n).joined = r.joined := by
  unfold forceListing; split <;> rfl

@[simp] lemma sessions_forget : (r.forget id n).sessions = r.sessions := by
  unfold forget; split <;> rfl

@[simp] lemma joined_forget : (r.forget id n).joined = r.joined := by
  unfold forget; split <;> rfl

/-- An id is forgotten if it stood for the session, and no other is. -/
lemma get?_table_forget {id' : SessionId} :
    (r.forget id n).table.get? id' = (r.table.get? id').filter fun m => ¬ (m = n ∧ id = id') := by
  rw [← Table.get?_erase_if_eq]
  simp only [forget]
  split <;> rfl

/-- What follows a loss concerns the table and the queue of listings, not the sessions. -/
@[simp] lemma sessions_settle : (r.settle n).sessions = r.sessions := by
  unfold settle; split <;> simp

@[simp] lemma joined_settle : (r.settle n).joined = r.joined := by
  unfold settle; split <;> simp

@[simp] lemma joined_remove : (r.remove n p).joined = r.joined := by simp [remove]

@[simp] lemma size_remove : (r.remove n p).sessions.size = r.sessions.size := by simp [remove]

/-- What a session is after one lost a peer. -/
lemma session_remove (h : n < r.sessions.size) (p : PeerId) (m : SessionNo) :
    (r.remove n p).session m = if m = n then (r.session n).remove p else r.session m := by
  rw [← session_changeSession h (·.remove p) m]
  simp [session, remove]

lemma session_remove_of_ne (h : m ≠ n) : (r.remove n p).session m = r.session m := by
  rw [session, remove, sessions_settle]
  exact session_changeSession_of_ne h

/-- A session that lost its last peer leaves the table, and no other does. -/
lemma get?_table_remove (h : n < r.sessions.size) :
    (r.remove n p).table.get? id = (r.table.get? id).filter fun m =>
      ¬ (m = n ∧ (r.session n).id = id ∧ ((r.session n).remove p).bindings = []) := by
  have hs : (r.changeSession n (·.remove p)).session n = (r.session n).remove p := by
    rw [session_changeSession h, if_pos rfl]
  simp only [remove, settle]
  rw [hs]
  split
  · rename_i he
    have he' : ((r.session n).remove p).bindings = [] := List.isEmpty_iff.mp he
    rw [get?_table_forget]
    simp only [table_changeSession, he', and_true]
    rfl
  · rename_i he
    have he' : ((r.session n).remove p).bindings ≠ [] := fun e => he (List.isEmpty_iff.mpr e)
    simp only [table_forceListing, table_changeSession, he', and_false, not_false_eq_true,
      decide_true]
    cases r.table.get? id <;> rfl

end Roster

end MeteredRelay
