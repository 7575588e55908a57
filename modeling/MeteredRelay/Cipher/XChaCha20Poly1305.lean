import MeteredRelay.Cipher.Aead
import MeteredRelay.Cipher.ChaCha20
import MeteredRelay.Cipher.Compare
import MeteredRelay.Cipher.Poly1305

/-!
# XChaCha20-Poly1305

The authenticated cipher of datagrams and cookies: ChaCha20 under a key derived from the extended
nonce, and Poly1305 under the first block of that stream.  The tag covers label and cipher text,
each filled up to sixteen bytes, and their lengths.

**`opens`** is the property that the rest of the library may ask of a cipher.
-/

namespace MeteredRelay

namespace XChaCha20Poly1305

/-- What the tag is computed of. -/
def tagged (label cipher : Bytes) : Bytes :=
  Bytes.padTo 16 label ++ (Bytes.padTo 16 cipher ++
    (Bytes.ofNatLE 8 label.length ++ Bytes.ofNatLE 8 cipher.length))

/-- The stream of a key and an extended nonce. -/
def stream (k : Key) (n : Nonce) : ChaCha20.Words :=
  ChaCha20.streamStart (ChaCha20.deriveKey k n) (n.1.drop 16)

/-- The tag of a label and a cipher text. -/
def tag (s : ChaCha20.Words) (label cipher : Bytes) : Tag :=
  Poly1305.tag ((ChaCha20.block s 0).take 32) (tagged label cipher)

/-- The cipher text and its tag. -/
def encrypt (k : Key) (n : Nonce) (label text : Bytes) : Bytes × Tag :=
  let s := stream k n
  let cipher := ChaCha20.crypt s 1 text
  (cipher, tag s label cipher)

/-- The text, if the tag is the one that label and cipher text have. -/
def decrypt (k : Key) (n : Nonce) (label cipher : Bytes) (g : Tag) : Option Bytes :=
  let s := stream k n
  if sameBytes (tag s label cipher).1 g.1 then some (ChaCha20.crypt s 1 cipher) else none

end XChaCha20Poly1305

/-- The cipher of datagrams and cookies. -/
def xchacha20Poly1305 : Aead where
  encrypt := XChaCha20Poly1305.encrypt
  decrypt := XChaCha20Poly1305.decrypt
  length_encrypt := by intros; simp [XChaCha20Poly1305.encrypt]
  length_decrypt := by
    intro k n l c g t h
    simp only [XChaCha20Poly1305.decrypt] at h
    split at h
    · injection h with h
      simp [← h]
    · contradiction

/-- Decryption undoes encryption. -/
theorem XChaCha20Poly1305.opens : xchacha20Poly1305.Opens := by
  intro k n l t
  show XChaCha20Poly1305.decrypt k n l _ _ = _
  simp [xchacha20Poly1305, XChaCha20Poly1305.decrypt, XChaCha20Poly1305.encrypt, sameBytes_iff,
    ChaCha20.crypt_crypt]

end MeteredRelay
