import Mathlib.Data.List.Basic
import MeteredRelay.Cipher.XChaCha20Poly1305
import MeteredRelay.Cookie.Sealed

/-!
# Cookies through their seals

An issuer seals a cookie under a key that it shares with the server, and the server looks for this
key among its own.  **`sealed_cookies`** says that the search loses nothing: if the key is one that
the server has, present or retired, and none that is tried before it opens the message, then the
server sees the cookie that was sealed, field for field.  That opening undoes sealing
(`Aead.Opens`) is all that is asked of the cipher; that the keys before do not open the message is
a hypothesis, because the first key that does decides, and a text of another cookie would be read
in place of this one.

The second part asks nothing of the cipher and nothing of the keys.  No byte string is a join cookie
for one server and a rotation cookie for another, since each kind opens from messages of one length
only (`JoinCookie.length_of_opened`, `RotationCookie.length_of_opened`), and the lengths differ.
The labels are not needed for that.
-/

namespace MeteredRelay

/-- The first bytes of a text that begins with the octets. -/
lemma Octets.ofPrefixed_append {n : Nat} (o : Octets n) (r : Bytes) :
    ofPrefixed n (o.1 ++ r) = o := by
  have ho : o.1.length = n := o.2
  apply Subtype.ext
  rw [val_ofPrefixed (by simp [ho]), List.take_left' ho]

/-- Behind the first bytes of a text comes what stands behind its first part. -/
lemma Bytes.drop_append_of_le {a : Bytes} {n : Nat} (h : a.length ≤ n) (r : Bytes) :
    (a ++ r).drop n = r.drop (n - a.length) := by
  rw [List.drop_append, List.drop_eq_nil_of_le h, List.nil_append]

/-! ## The open texts -/

/-- A join cookie is read as it was written. -/
theorem JoinCookie.decode_encode (c : JoinCookie) : decode c.encode = .ok c := by
  have hserver : c.serverSecret.1.length = 32 := c.serverSecret.2
  have howner : c.ownerSecret.1.length = 32 := c.ownerSecret.2
  rw [decode, if_pos c.length_encode]
  cases c with
  | mk server owner size peer endTime tag allowance admin =>
      simp only [encode]
      simp [Bytes.drop_append_of_le, Octets.ofPrefixed_append, hserver, howner,
        List.getD_eq_getElem?_getD]
      cases admin <;> simp

/-- A rotation cookie is read as it was written. -/
theorem RotationCookie.decode_encode (c : RotationCookie) : decode c.encode = .ok c := by
  have hserver : c.serverSecret.1.length = 32 := c.serverSecret.2
  have hold : c.oldOwnerSecret.1.length = 32 := c.oldOwnerSecret.2
  have hnew : c.newOwnerSecret.1.length = 32 := c.newOwnerSecret.2
  rw [decode, if_pos c.length_encode]
  simp [encode, Bytes.drop_append_of_le, Octets.ofPrefixed_append, hserver, hold, hnew]

/-! ## The search for a key -/

namespace CookieKeys

variable {A : Aead} {label message text : Bytes}

/-- A message is opened by one of the keys that are tried. -/
lemma exists_opened {keys : List Key} (h : firstOpened A label message keys = .ok text) :
    ∃ k ∈ keys, A.opened k label message = .ok text := by
  induction keys with
  | nil => contradiction
  | cons k keys ih =>
      rw [firstOpened] at h
      split at h
      · rename_i t ht
        obtain rfl := Except.ok.inj h
        exact ⟨k, List.mem_cons_self, ht⟩
      · rcases ih h with ⟨k', hk', hopened⟩
        exact ⟨k', List.mem_cons_of_mem k hk', hopened⟩

/-- What is read in a message is read in what one of the keys opens. -/
lemma exists_decoded {α : Type} {decode : Bytes → Except CookieFault α} {keys : List Key} {c : α}
    (h : firstOpened A label message keys >>= decode = .ok c) :
    ∃ k ∈ keys, ∃ text, A.opened k label message = .ok text ∧ decode text = .ok c := by
  cases htext : firstOpened A label message keys with
  | error e =>
      rw [htext] at h
      contradiction
  | ok text =>
      rw [htext] at h
      rcases exists_opened htext with ⟨k, hk, hopened⟩
      exact ⟨k, hk, text, hopened, h⟩

/-- A server comes to try a key for a message: it has the key, and none of those that it tries
before opens the message. -/
def Tries (A : Aead) (label message : Bytes) (ks : CookieKeys) (k : Key) : Prop :=
  ∃ before after, ks.toList = before ++ k :: after ∧
    ∀ j ∈ before, ∀ t, A.opened j label message ≠ .ok t

/-- Keys that do not open a message are passed over. -/
lemma firstOpened_append {before : List Key}
    (h : ∀ j ∈ before, ∀ t, A.opened j label message ≠ .ok t) (keys : List Key) :
    firstOpened A label message (before ++ keys) = firstOpened A label message keys := by
  induction before with
  | nil => rfl
  | cons j before ih =>
      rw [List.cons_append, firstOpened]
      split
      · rename_i t ht
        exact absurd ht (h j List.mem_cons_self t)
      · exact ih fun i hi => h i (List.mem_cons_of_mem j hi)

/-- The text of a message is the one under the key that the server comes to try, if this key opens
it. -/
lemma Tries.firstOpened_eq {ks : CookieKeys} {k : Key} (h : Tries A label message ks k)
    (hopened : A.opened k label message = .ok text) :
    firstOpened A label message ks.toList = .ok text := by
  rcases h with ⟨before, after, hkeys, hbefore⟩
  rw [hkeys, firstOpened_append hbefore, firstOpened, hopened]

end CookieKeys

/-! ## The lengths of messages -/

/-- A text that is read as a join cookie has its size. -/
lemma JoinCookie.length_of_decode {text : Bytes} {c : JoinCookie} (h : decode text = .ok c) :
    text.length = byteSize := by
  unfold decode at h
  split at h
  · assumption
  · contradiction

/-- A text that is read as a rotation cookie has its size. -/
lemma RotationCookie.length_of_decode {text : Bytes} {c : RotationCookie} (h : decode text = .ok c) :
    text.length = byteSize := by
  unfold decode at h
  split at h
  · assumption
  · contradiction

variable {A : Aead} {ks : CookieKeys} {message : Bytes}

/-- Messages that open as join cookies have one length. -/
lemma JoinCookie.length_of_opened {c : JoinCookie} (h : opened A ks message = .ok c) :
    message.length = byteSize + sealOverhead := by
  obtain ⟨k, -, text, hopened, hdecode⟩ := CookieKeys.exists_decoded h
  rw [← A.length_of_opened hopened, length_of_decode hdecode]

/-- Messages that open as rotation cookies have one length. -/
lemma RotationCookie.length_of_opened {c : RotationCookie} (h : opened A ks message = .ok c) :
    message.length = byteSize + sealOverhead := by
  obtain ⟨k, -, text, hopened, hdecode⟩ := CookieKeys.exists_decoded h
  rw [← A.length_of_opened hopened, length_of_decode hdecode]

/-! ## Kind and contents -/

/-- A join cookie that was sealed under the key that the server comes to try is seen as it was. -/
lemma JoinCookie.opened_sealed (hA : A.Opens) {k : Key} {n : Nonce} {c : JoinCookie}
    (h : CookieKeys.Tries A label (c.sealed A k n) ks k) :
    opened A ks (c.sealed A k n) = .ok c := by
  have htext := h.firstOpened_eq (A.opened_sealed hA k n label c.encode)
  rw [opened, htext]
  exact c.decode_encode

/-- A rotation cookie that was sealed under the key that the server comes to try is seen as it
was. -/
lemma RotationCookie.opened_sealed (hA : A.Opens) {k : Key} {n : Nonce} {c : RotationCookie}
    (h : CookieKeys.Tries A label (c.sealed A k n) ks k) :
    opened A ks (c.sealed A k n) = .ok c := by
  have htext := h.firstOpened_eq (A.opened_sealed hA k n label c.encode)
  rw [opened, htext]
  exact c.decode_encode

/-- **Cookies keep their kind and their contents.**  A cookie of either kind that was sealed under a
key of the server comes out of its seal as it went in, if no key that is tried before opens the
message and opening undoes sealing.  Whatever the cipher, no message opens as a join cookie with
some keys and as a rotation cookie with some. -/
theorem sealed_cookies (A : Aead) :
    (A.Opens → ∀ (ks : CookieKeys) (k : Key) (n : Nonce),
      (∀ c : JoinCookie, ks.Tries A JoinCookie.label (c.sealed A k n) k →
        JoinCookie.opened A ks (c.sealed A k n) = .ok c) ∧
      ∀ c : RotationCookie, ks.Tries A RotationCookie.label (c.sealed A k n) k →
        RotationCookie.opened A ks (c.sealed A k n) = .ok c) ∧
    ∀ (message : Bytes) (ks ks' : CookieKeys) (c : JoinCookie) (c' : RotationCookie),
      JoinCookie.opened A ks message = .ok c → RotationCookie.opened A ks' message ≠ .ok c' := by
  refine ⟨?_, ?_⟩
  · intro hA ks k n
    exact ⟨fun _ => JoinCookie.opened_sealed hA, fun _ => RotationCookie.opened_sealed hA⟩
  · intro message ks ks' c c' hjoin hrotation
    have hlength := (JoinCookie.length_of_opened hjoin).symm.trans
      (RotationCookie.length_of_opened hrotation)
    exact absurd hlength (by decide)

/-- A server that retired a key sees the cookies that were sealed under it, and a join cookie as
that only. -/
theorem sealed_cookies_retired :
    let k : Key := ⟨Octets.ofPrefixed 32 [7]⟩
    let ks : CookieKeys := ⟨default, [k]⟩
    let c : JoinCookie := ⟨default, default, 4, ⟨1⟩, 1700000000, 7, 1000, true⟩
    let c' : RotationCookie := ⟨default, default, Octets.ofPrefixed 32 [9], 4, 1700000000, 8⟩
    JoinCookie.opened xchacha20Poly1305 ks (c.sealed xchacha20Poly1305 k default) = .ok c ∧
      RotationCookie.opened xchacha20Poly1305 ks (c'.sealed xchacha20Poly1305 k default) = .ok c' ∧
      RotationCookie.opened xchacha20Poly1305 ks (c.sealed xchacha20Poly1305 k default) ≠
        .ok c' := by
  intro k ks c c'
  have hjoin : xchacha20Poly1305.opened default JoinCookie.label
      (c.sealed xchacha20Poly1305 k default) = .error .decryptionFailed := by decide +kernel
  have hrotation : xchacha20Poly1305.opened default RotationCookie.label
      (c'.sealed xchacha20Poly1305 k default) = .error .decryptionFailed := by decide +kernel
  have hkeys : ks.toList = [default] ++ k :: [] := rfl
  clear_value c c' ks k
  obtain ⟨hopens, happart⟩ := sealed_cookies xchacha20Poly1305
  obtain ⟨hjoins, hrotations⟩ := hopens XChaCha20Poly1305.opens ks k default
  have hc := hjoins c ⟨[default], [], hkeys, by simp [hjoin]⟩
  have hc' := hrotations c' ⟨[default], [], hkeys, by simp [hrotation]⟩
  exact ⟨hc, hc', happart _ ks ks c c' hc⟩

end MeteredRelay
