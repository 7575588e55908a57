import MeteredRelay.Cipher.Key
import MeteredRelay.Cipher.MlKem

/-!
# Key pairs of the handshake

A client encapsulates under the server's public key; what it sends gives the server, who has the
private key, the key of the connection.  A private key is kept together with its public key and
stored as hexadecimal text.  Only lengths are checked when a key is read: an encapsulation that was
not made for a key gives a key that nobody else has.
-/

namespace MeteredRelay

/-- A secret key and the public key that belongs to it. -/
structure KemPrivateKey where
  secretKey : Octets MlKem.secretSize
  publicKey : Octets MlKem.publicSize
deriving DecidableEq

/-- A public key. -/
structure KemPublicKey where
  octets : Octets MlKem.publicSize
deriving DecidableEq

namespace KemPublicKey

/-- The key's bytes. -/
def bytes (k : KemPublicKey) : Bytes := k.octets.1

/-- The key that a byte string of the right length is. -/
def ofBytes (b : Bytes) : Except CipherFault KemPublicKey :=
  match Octets.ofBytes? MlKem.publicSize b with
  | some o => .ok ⟨o⟩
  | none => .error .invalidKeyMaterial

/-- A connection key for thirty-two random bytes, and its encapsulation. -/
def encapsulate (k : KemPublicKey) (message : Octets 32) : Key × Bytes :=
  let (shared, ciphertext) := MlKem.encapsulate k.bytes message.1
  (⟨Octets.ofPrefixed 32 shared⟩, ciphertext)

end KemPublicKey

namespace KemPrivateKey

/-- The bytes of a stored private key. -/
def size : Nat := MlKem.secretSize + MlKem.publicSize

/-- The key pair of two random seeds. -/
def generate (d z : Octets 32) : KemPrivateKey :=
  let (sk, pk) := MlKem.keygen d.1 z.1
  ⟨Octets.ofPrefixed _ sk, Octets.ofPrefixed _ pk⟩

/-- The secret key and then the public key. -/
def bytes (k : KemPrivateKey) : Bytes := k.secretKey.1 ++ k.publicKey.1

/-- The key pair that a byte string of the right length is. -/
def ofBytes (b : Bytes) : Except CipherFault KemPrivateKey :=
  if b.length = size then
    .ok ⟨Octets.ofPrefixed _ b, Octets.ofPrefixed _ (b.drop MlKem.secretSize)⟩
  else .error (.invalidKeyLength size b.length)

/-- The text of a key file. -/
def fileText (k : KemPrivateKey) : String := k.bytes.toHex

/-- Only its owner may read or write a key file. -/
def fileMode : Nat := 0o600

/-- The key pair in the text of a key file; white space around it is ignored. -/
def ofFileText (s : String) : Except CipherFault KemPrivateKey :=
  match Bytes.ofHexDigits? (Text.trim s.toList) with
  | some b => ofBytes b
  | none => .error .invalidKeyMaterial

/-- The key pair in a key file, or why the file could not be read. -/
def ofFile (content : Except FileFault String) : Except CipherFault KemPrivateKey :=
  match content with
  | .ok s => ofFileText s
  | .error f => .error (.keyFile f)

/-- The public half. -/
def toPublic (k : KemPrivateKey) : KemPublicKey := ⟨k.publicKey⟩

/-- The key of a connection from an encapsulation of the right length. -/
def decapsulate (k : KemPrivateKey) (ciphertext : Bytes) : Except CipherFault Key :=
  if ciphertext.length = MlKem.ciphertextSize then
    .ok ⟨Octets.ofPrefixed 32 (MlKem.decapsulate k.secretKey.1 ciphertext)⟩
  else .error (.invalidCiphertext ciphertext.length)

/-- The public half; the secret one is never shown inside larger records. -/
def inspect (k : KemPrivateKey) : String :=
  s!"KemPrivateKey \x7b public_key: \"{Bytes.toHex k.publicKey.1}\", .. \x7d"

end KemPrivateKey

end MeteredRelay
