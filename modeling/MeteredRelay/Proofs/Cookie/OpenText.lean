import MeteredRelay.Proofs.Cookie

/-!
# Cookies in the open

The writer of a cookie puts its fields one behind the other, and the reader looks for each at a
place of its own, so nothing but the widths of the fields keeps the two together.  That what is
written is read (`JoinCookie.decode_encode`, `RotationCookie.decode_encode`) does not tell what the
reader makes of a text that nobody wrote.  Here it is asked of every text: it is read exactly if it
has the right length, and then its fields, written again, are the pieces that they were read from,
and the pieces leave no gap.

One byte of a join cookie has more values than it says.  The reader takes any last byte but zero for
an admin, and the writer has one byte for that.  **`open_cookies`** is exact about it.
-/

namespace MeteredRelay

namespace Bytes

variable {b : Bytes}

lemma ofInt64_toInt64 (h : 8 ≤ b.length) : ofInt64 (toInt64 b) = b.take 8 := by
  rw [ofInt64, toInt64, UInt64.toUInt64_toInt64, ofUInt64_toUInt64 h]

/-- A piece of a text and the next piece are one piece. -/
lemma take_append_take_drop (b rest : Bytes) (i k : Nat) :
    b.take i ++ ((b.drop i).take k ++ rest) = b.take (i + k) ++ rest := by
  rw [← List.append_assoc, ← List.take_add]

end Bytes

variable {b : Bytes}

/-! ## Join cookies -/

namespace JoinCookie

variable {c : JoinCookie}

lemma exists_decode : (∃ c, decode b = .ok c) ↔ b.length = byteSize := by
  constructor
  · rintro ⟨c, h⟩
    exact length_of_decode h
  · intro h
    exact ⟨_, if_pos h⟩

/-- All bytes come back but the last, of which only zero and one do. -/
lemma encode_of_decode (h : decode b = .ok c) :
    c.encode = b.dropLast ++ [if b.getLast? = some 0 then 0 else 1] := by
  have hsize : b.length = byteSize := length_of_decode h
  have hlength : b.length = 97 := hsize
  have hlast : b.getLast? = some (b.getD 96 0) := by
    rw [List.getLast?_eq_getElem?, hlength, List.getD_eq_getElem?_getD,
      List.getElem?_eq_getElem (by omega), Option.getD_some]
  rw [decode, if_pos hsize] at h
  obtain rfl := Except.ok.inj h
  rw [encode, Octets.val_ofPrefixed (by omega), Octets.val_ofPrefixed (by simp [hlength]),
    Bytes.ofUInt32_toUInt32 (by simp [hlength]), Bytes.ofUInt32_toUInt32 (by simp [hlength]),
    Bytes.ofInt64_toInt64 (by simp [hlength]), Bytes.ofUInt64_toUInt64 (by simp [hlength]),
    Bytes.ofUInt64_toUInt64 (by simp [hlength])]
  simp only [Bytes.take_append_take_drop]
  rw [List.dropLast_eq_take, hlength, hlast]
  generalize b.getD 96 0 = last
  by_cases hzero : last = 0 <;> simp [hzero]

end JoinCookie

/-! ## Rotation cookies -/

namespace RotationCookie

variable {c : RotationCookie}

lemma exists_decode : (∃ c, decode b = .ok c) ↔ b.length = byteSize := by
  constructor
  · rintro ⟨c, h⟩
    exact length_of_decode h
  · intro h
    exact ⟨_, if_pos h⟩

lemma encode_of_decode (h : decode b = .ok c) : c.encode = b := by
  have hsize : b.length = byteSize := length_of_decode h
  have hlength : b.length = 116 := hsize
  rw [decode, if_pos hsize] at h
  obtain rfl := Except.ok.inj h
  rw [encode, Octets.val_ofPrefixed (by omega), Octets.val_ofPrefixed (by simp [hlength]),
    Octets.val_ofPrefixed (by simp [hlength]), Bytes.ofUInt32_toUInt32 (by simp [hlength]),
    Bytes.ofInt64_toInt64 (by simp [hlength]), Bytes.ofUInt64_toUInt64 (by simp [hlength])]
  simp only [Bytes.take_append_take_drop]
  rw [← List.take_add, List.take_of_length_le (by omega)]

end RotationCookie

/-! ## Both kinds -/

/-- **Writing and reading open cookies are inverse.**  Every cookie is read as it was written.  Every
text of the right length is read, and no other; what is read is written back as the text that it
was, except that a join cookie has only one last byte for an admin. -/
theorem open_cookies :
    (∀ c : JoinCookie, JoinCookie.decode c.encode = .ok c) ∧
    (∀ c : RotationCookie, RotationCookie.decode c.encode = .ok c) ∧
    ∀ b : Bytes,
      ((∃ c, JoinCookie.decode b = .ok c) ↔ b.length = 97) ∧
      (∀ c, JoinCookie.decode b = .ok c →
        c.encode = if b.getLast? = some 0 then b else b.dropLast ++ [1]) ∧
      ((∃ c, RotationCookie.decode b = .ok c) ↔ b.length = 116) ∧
      ∀ c, RotationCookie.decode b = .ok c → c.encode = b := by
  refine ⟨JoinCookie.decode_encode, RotationCookie.decode_encode, fun b =>
    ⟨JoinCookie.exists_decode, ?_, RotationCookie.exists_decode,
      fun c => RotationCookie.encode_of_decode⟩⟩
  intro c h
  rw [JoinCookie.encode_of_decode h]
  split
  · rename_i hzero
    exact List.dropLast_append_getLast? 0 hzero
  · rfl

/-- A cookie may say by any byte that its peer is an admin, and says so by a one when it is written
again. -/
theorem open_cookies_last_byte :
    let b : Bytes := List.replicate 96 0 ++ [7]
    ∃ c, JoinCookie.decode b = .ok c ∧ c.encode = List.replicate 96 0 ++ [1] := by
  intro b
  obtain ⟨-, -, htexts⟩ := open_cookies
  obtain ⟨hread, hwritten, -⟩ := htexts b
  obtain ⟨c, hc⟩ := hread.mpr (by decide)
  have hlast : b.getLast? ≠ some 0 := by decide
  refine ⟨c, hc, ?_⟩
  rw [hwritten c hc, if_neg hlast]
  rfl

end MeteredRelay
