import MeteredRelay.Files.Fault

/-!
# Faults of keys and sealed messages

What can go wrong with a key, a sealed message or a key file, each cause a constructor with the
figures that its message shows.
-/

namespace MeteredRelay

/-- What can go wrong with a key, a sealed message or a key file. -/
inductive CipherFault where
  /-- A message could not be sealed. -/
  | encryptionFailed
  /-- The authentication tag does not match. -/
  | decryptionFailed
  /-- The message is shorter than a nonce and a tag. -/
  | sealedTooShort (size : Nat)
  /-- The opened text does not fit where it is to go. -/
  | bufferTooSmall (needed available : Nat)
  /-- A key of the wrong length. -/
  | invalidKeyLength (expected actual : Nat)
  /-- A key encapsulation of the wrong length. -/
  | invalidCiphertext (size : Nat)
  /-- A key that is no hexadecimal text, or a public key of the wrong length. -/
  | invalidKeyMaterial
  /-- The key file could not be read or written. -/
  | keyFile (fault : FileFault)
deriving DecidableEq

namespace CipherFault

/-- The fault in words. -/
def message : CipherFault → String
  | encryptionFailed => "encryption failed"
  | decryptionFailed => "decryption failed: authentication failure"
  | sealedTooShort n => s!"sealed message too short: {n} bytes"
  | bufferTooSmall n a => s!"output buffer too small: need {n}, have {a}"
  | invalidKeyLength e a => s!"invalid key length: expected {e}, got {a}"
  | invalidCiphertext n => s!"invalid KEM ciphertext length: {n}"
  | invalidKeyMaterial => "invalid key material"
  | keyFile f => s!"key file error: {f.message}"

/-- The cause and its figures. -/
def inspect : CipherFault → String
  | encryptionFailed => "EncryptionFailed"
  | decryptionFailed => "DecryptionFailed"
  | sealedTooShort n => s!"SealedTooShort({n})"
  | bufferTooSmall n a => s!"BufferTooSmall \x7b needed: {n}, available: {a} \x7d"
  | invalidKeyLength e a => s!"InvalidKeyLength \x7b expected: {e}, actual: {a} \x7d"
  | invalidCiphertext n => s!"InvalidCiphertext({n})"
  | invalidKeyMaterial => "InvalidKeyMaterial"
  | keyFile f => s!"KeyFile({f.message})"

end CipherFault

end MeteredRelay
