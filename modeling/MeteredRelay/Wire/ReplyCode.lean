import MeteredRelay.Bytes.Hex

/-!
# Reply codes

Every command that can be refused is answered with a 64-bit code.  Zero means success, or that
the server does not disclose why it refused; the twelve causes are numbered from `2 ^ 32 + 1` and
keep their numbers for ever, so that clients can tell them apart.  A number outside the list is
kept as `unknown`.

**`ofWord_word`** says that a code survives the wire exactly when it is not an `unknown` that
carries the number of a listed code.
-/

namespace MeteredRelay

/-- Why a command was refused, as the wire tells it. -/
inductive ReplyCode where
  /-- Success, or an undisclosed cause. -/
  | noError
  /-- The join cookie opens under no key. -/
  | joinCookieInvalid
  /-- The join cookie was made for another peer. -/
  | joinCookieWrongPeerId
  /-- The join cookie's time has passed. -/
  | joinCookieExpired
  /-- The join cookie's payment was redeemed elsewhere. -/
  | joinCookiePaymentReused
  /-- The caller is bound to no session. -/
  | sourcePeerNotInSession
  /-- The caller is no admin of its session. -/
  | sourcePeerNotAdmin
  /-- The peer to be kicked is not bound in the caller's session. -/
  | targetPeerNotInSession
  /-- The caller is banned from the session. -/
  | banned
  /-- The rotation cookie opens under no key. -/
  | invalidRotCookie
  /-- The rotation cookie's lifetime has passed. -/
  | expiredRotCookie
  /-- The rotation cookie names another session than the caller's. -/
  | mismatchedOldSessId
  /-- The rotation cookie was used before. -/
  | alreadyUsedRotCookie
  /-- A number without a meaning here. -/
  | unknown (word : UInt64)
deriving DecidableEq, Inhabited

namespace ReplyCode

/-- The number on the wire. -/
def word : ReplyCode → UInt64
  | noError => 0
  | joinCookieInvalid => 0x100000001
  | joinCookieWrongPeerId => 0x100000002
  | joinCookieExpired => 0x100000003
  | joinCookiePaymentReused => 0x100000004
  | sourcePeerNotInSession => 0x100000005
  | sourcePeerNotAdmin => 0x100000006
  | targetPeerNotInSession => 0x100000007
  | banned => 0x100000008
  | invalidRotCookie => 0x100000009
  | expiredRotCookie => 0x10000000a
  | mismatchedOldSessId => 0x10000000b
  | alreadyUsedRotCookie => 0x10000000c
  | unknown w => w

/-- The codes that have a meaning. -/
def listed : List ReplyCode :=
  [noError, joinCookieInvalid, joinCookieWrongPeerId, joinCookieExpired, joinCookiePaymentReused,
    sourcePeerNotInSession, sourcePeerNotAdmin, targetPeerNotInSession, banned, invalidRotCookie,
    expiredRotCookie, mismatchedOldSessId, alreadyUsedRotCookie]

/-- The code of a number on the wire. -/
def ofWord (w : UInt64) : ReplyCode := (listed.find? (·.word == w)).getD (unknown w)

/-- Whether the code reports success. -/
def isOk (c : ReplyCode) : Bool := c == noError

/-- Whether the code has a meaning. -/
def isListed : ReplyCode → Bool
  | unknown _ => false
  | _ => true

/-- The name of a code. -/
def name : ReplyCode → String
  | noError => "NoError"
  | joinCookieInvalid => "JoinCookieInvalid"
  | joinCookieWrongPeerId => "JoinCookieWrongPeerId"
  | joinCookieExpired => "JoinCookieExpired"
  | joinCookiePaymentReused => "JoinCookiePaymentReused"
  | sourcePeerNotInSession => "SourcePeerNotInSession"
  | sourcePeerNotAdmin => "SourcePeerNotAdmin"
  | targetPeerNotInSession => "TargetPeerNotInSession"
  | banned => "Banned"
  | invalidRotCookie => "InvalidRotCookie"
  | expiredRotCookie => "ExpiredRotCookie"
  | mismatchedOldSessId => "MismatchedOldSessId"
  | alreadyUsedRotCookie => "AlreadyUsedRotCookie"
  | unknown w => s!"Unknown({w.toNat})"

/-- The code in words. -/
def message : ReplyCode → String
  | noError => "no error"
  | joinCookieInvalid => "invalid join cookie"
  | joinCookieWrongPeerId => "join cookie for wrong peer id"
  | joinCookieExpired => "join cookie expired"
  | joinCookiePaymentReused => "join cookie payment reused"
  | sourcePeerNotInSession => "source peer not in session"
  | sourcePeerNotAdmin => "source peer not session admin"
  | targetPeerNotInSession => "target peer not in session"
  | banned => "peer is banned from session"
  | invalidRotCookie => "invalid rotate cookie"
  | expiredRotCookie => "expired rotate cookie"
  | mismatchedOldSessId => "rotate cookie old session id mismatch"
  | alreadyUsedRotCookie => "rotate cookie already used"
  | unknown w => s!"unknown error code 0x{hexOfNat w.toNat}"

/-- A listed code is read back from its number. -/
theorem ofWord_word_of_isListed {c : ReplyCode} (h : c.isListed = true) : ofWord c.word = c := by
  cases c <;> first | rfl | simp [isListed] at h

/-- Reading a number and writing it again gives the number. -/
theorem word_ofWord (w : UInt64) : (ofWord w).word = w := by
  unfold ofWord
  cases h : listed.find? (·.word == w) with
  | none => rfl
  | some c => simpa using List.find?_some h

theorem isListed_of_mem_listed : ∀ {c : ReplyCode}, c ∈ listed → c.isListed = true := by
  decide

theorem ofWord_of_forall_ne {w : UInt64} (h : ∀ d ∈ listed, w ≠ d.word) : ofWord w = unknown w := by
  have hn : listed.find? (·.word == w) = none := by
    rw [List.find?_eq_none]
    exact fun d hd e => h d hd (beq_iff_eq.mp e).symm
  rw [ofWord, hn]
  rfl

/-- **A code survives the wire** exactly when it is not an `unknown` that carries the number of a
listed code. -/
theorem ofWord_word {c : ReplyCode} :
    ofWord c.word = c ↔ ∀ d ∈ listed, c ≠ unknown d.word := by
  constructor
  · rintro h d hd rfl
    have hl := isListed_of_mem_listed hd
    have hw : ofWord d.word = d := ofWord_word_of_isListed hl
    rw [show (unknown d.word).word = d.word from rfl, hw] at h
    rw [h] at hl
    simp [isListed] at hl
  · intro h
    cases c with
    | unknown w => exact ofWord_of_forall_ne fun d hd e => h d hd (congrArg unknown e)
    | _ => rfl

end ReplyCode

end MeteredRelay
