import MeteredRelay.Cipher.Aead
import MeteredRelay.Cookie.Join
import MeteredRelay.Cookie.Rotation

/-!
# Sealed cookies

Cookies reach the server sealed.  It tries its present key and then the retired ones in order, and
the first key that opens the message decides.  Each kind of cookie is sealed under a label of its
own, so that one kind never opens as the other.
-/

namespace MeteredRelay

/-- The keys under which cookies may be sealed, tried in order. -/
structure CookieKeys where
  /-- The key of new cookies. -/
  current : Key
  /-- Keys of older cookies. -/
  retired : List Key
deriving DecidableEq

namespace CookieKeys

/-- The keys in the order in which they are tried. -/
def toList (ks : CookieKeys) : List Key := ks.current :: ks.retired

/-- The text of a message under the first key that opens it. -/
def firstOpened (A : Aead) (label message : Bytes) : List Key → Except CookieFault Bytes
  | [] => .error .unopened
  | k :: r =>
    match A.opened k label message with
    | .ok t => .ok t
    | .error _ => firstOpened A label message r

end CookieKeys

/-- A join cookie sealed under a key. -/
def JoinCookie.sealed (A : Aead) (k : Key) (n : Nonce) (c : JoinCookie) : Bytes :=
  A.sealed k n JoinCookie.label c.encode

/-- The join cookie in a sealed message. -/
def JoinCookie.opened (A : Aead) (ks : CookieKeys) (message : Bytes) :
    Except CookieFault JoinCookie := do
  JoinCookie.decode (← CookieKeys.firstOpened A JoinCookie.label message ks.toList)

/-- A rotation cookie sealed under a key. -/
def RotationCookie.sealed (A : Aead) (k : Key) (n : Nonce) (c : RotationCookie) : Bytes :=
  A.sealed k n RotationCookie.label c.encode

/-- The rotation cookie in a sealed message. -/
def RotationCookie.opened (A : Aead) (ks : CookieKeys) (message : Bytes) :
    Except CookieFault RotationCookie := do
  RotationCookie.decode (← CookieKeys.firstOpened A RotationCookie.label message ks.toList)

end MeteredRelay
