import MeteredRelay.Cipher.Key

/-!
# Sealed messages

An authenticated cipher turns a text into a cipher text of the same length and a tag that also
vouches for a label which is not sent.  A sealed message is nonce, cipher text and tag in this
order, forty bytes longer than its text.

`Aead` is any such cipher: two functions that keep lengths.  That opening undoes sealing,
`Aead.Opens`, is a property of its own, so that a rule can say whether it relies on it.  The main
statements are **`opened_sealed`**, and that a message that is too short for a nonce and a tag is
refused before anything is authenticated (**`opened_of_short`**).
-/

namespace MeteredRelay

/-- The bytes by which a sealed message is longer than its text. -/
def sealOverhead : Nat := 40

/-- An authenticated cipher. -/
structure Aead where
  /-- The cipher text and tag of a text under a key, a nonce and a label. -/
  encrypt : Key → Nonce → (label text : Bytes) → Bytes × Tag
  /-- The text of a cipher text, if the tag vouches for it and the label. -/
  decrypt : Key → Nonce → (label cipher : Bytes) → Tag → Option Bytes
  length_encrypt : ∀ k n l t, (encrypt k n l t).1.length = t.length
  length_decrypt : ∀ k n l c g t, decrypt k n l c g = some t → t.length = c.length

namespace Aead

variable (A : Aead)

/-- Decryption undoes encryption. -/
def Opens : Prop :=
  ∀ k n l t, A.decrypt k n l (A.encrypt k n l t).1 (A.encrypt k n l t).2 = some t

/-- Nonce, cipher text and tag. -/
def sealed (k : Key) (n : Nonce) (label text : Bytes) : Bytes :=
  n.1 ++ ((A.encrypt k n label text).1 ++ (A.encrypt k n label text).2.1)

/-- The nonce of a sealed message. -/
def nonce (message : Bytes) : Nonce := Octets.ofPrefixed 24 message

/-- The cipher text of a sealed message. -/
def body (message : Bytes) : Bytes := (message.drop 24).take (message.length - sealOverhead)

/-- The tag of a sealed message. -/
def tag (message : Bytes) : Tag := Octets.ofPrefixed 16 (message.drop (message.length - 16))

/-- The text of a sealed message. -/
def opened (k : Key) (label message : Bytes) : Except CipherFault Bytes :=
  if message.length < sealOverhead then .error (.sealedTooShort message.length)
  else
    match A.decrypt k (nonce message) label (body message) (tag message) with
    | some t => .ok t
    | none => .error .decryptionFailed

/-- The text of a sealed message, where there is room for `room` bytes of it.  A lack of room is
found before anything is authenticated. -/
def openedWithin (room : Nat) (k : Key) (label message : Bytes) : Except CipherFault Bytes :=
  if sealOverhead ≤ message.length ∧ room < message.length - sealOverhead then
    .error (.bufferTooSmall (message.length - sealOverhead) room)
  else A.opened k label message

@[simp] theorem length_sealed (k : Key) (n : Nonce) (l t : Bytes) :
    (A.sealed k n l t).length = t.length + sealOverhead := by
  have hg := (A.encrypt k n l t).2.2
  have hn := n.2
  simp only [sealed, List.length_append, A.length_encrypt, hg, hn, sealOverhead]
  omega

theorem length_of_opened {k : Key} {l m t : Bytes} (h : A.opened k l m = .ok t) :
    t.length + sealOverhead = m.length := by
  unfold opened at h
  split at h
  · contradiction
  · rename_i hm
    split at h
    · rename_i hd
      injection h with h
      subst h
      have := A.length_decrypt _ _ _ _ _ _ hd
      simp only [body, List.length_take, List.length_drop, sealOverhead] at this hm ⊢
      omega
    · contradiction

@[simp] theorem nonce_sealed (k : Key) (n : Nonce) (l t : Bytes) : nonce (A.sealed k n l t) = n := by
  have hn : n.1.length = 24 := n.2
  apply Subtype.ext
  rw [nonce, Octets.val_ofPrefixed (by simp [sealOverhead]), sealed,
    List.take_append_of_le_length (by omega), List.take_of_length_le (by omega)]

@[simp] theorem body_sealed (k : Key) (n : Nonce) (l t : Bytes) :
    body (A.sealed k n l t) = (A.encrypt k n l t).1 := by
  have hn : n.1.length = 24 := n.2
  rw [body, length_sealed, Nat.add_sub_cancel, sealed, List.drop_left' hn,
    List.take_left' (A.length_encrypt k n l t)]

@[simp] theorem tag_sealed (k : Key) (n : Nonce) (l t : Bytes) :
    tag (A.sealed k n l t) = (A.encrypt k n l t).2 := by
  have hn : n.1.length = 24 := n.2
  have hc : (A.encrypt k n l t).1.length = t.length := A.length_encrypt k n l t
  have hg : (A.encrypt k n l t).2.1.length = 16 := (A.encrypt k n l t).2.2
  have hd : (A.sealed k n l t).drop ((A.sealed k n l t).length - 16) = (A.encrypt k n l t).2.1 := by
    rw [length_sealed, sealed, ← List.append_assoc]
    exact List.drop_left' (by simp only [List.length_append, sealOverhead]; omega)
  apply Subtype.ext
  rw [tag, hd, Octets.val_ofPrefixed (by omega), List.take_of_length_le (by omega)]

/-- **Opening undoes sealing**, for every cipher whose decryption undoes its encryption. -/
theorem opened_sealed (hA : A.Opens) (k : Key) (n : Nonce) (l t : Bytes) :
    A.opened k l (A.sealed k n l t) = .ok t := by
  rw [opened, if_neg (by simp), nonce_sealed, body_sealed, tag_sealed, hA k n l t]

/-- A message too short for a nonce and a tag is refused as such. -/
theorem opened_of_short {k : Key} {l m : Bytes} (h : m.length < sealOverhead) :
    A.opened k l m = .error (.sealedTooShort m.length) := by
  rw [opened, if_pos h]

end Aead

end MeteredRelay
