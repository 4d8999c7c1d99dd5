/-
  Feedcast.Core.Security — passwords, and the two kinds of tokens
  (`core/security.py`).

  `jwt` and `argon2` are packages, and parameters here.  A token is text; what it
  carries is read back by `jwt.decode`, of which only this is assumed: a signed
  token decodes to the claims it was signed with, under the same secret, and no
  token decodes after its expiry.  Two texts may decode alike: the last character
  of a base64url part holds bits that nothing reads.
-/
import Feedcast.Core.Config
import Feedcast.Core.Platform

namespace Feedcast

/-- The settings of the session layer, over the others. -/
structure AuthSettings extends Settings where
  jwtSecret : Str
  accessTokenMinutes : Int := 15
  refreshTokenDays : Int := 7
  cookieSecure : Bool := true
  /-- `_strong_secret`. -/
  strong_secret : 32 ≤ jwtSecret.length

/-! ## §1. Tokens. -/

inductive TokenKind
  | access
  | refresh
  deriving Repr, DecidableEq

def TokenKind.text : TokenKind → Str
  | .access => "access".toList
  | .refresh => "refresh".toList

/-- The claims of a token, with the required ones (`exp`, `iat`, `sub`, `type`)
there.  The two stamps are whole seconds on the wire. -/
@[ext]
structure Claims where
  sub : Str
  type : Str
  iat : Int
  exp : Int
  jti : Option Str
  deriving Repr, DecidableEq

/-- `jwt.encode(claims, secret)` and `jwt.decode(token, secret)` at a time. -/
structure PyJwt where
  encode : Claims → Str → Str
  decode : Str → Str → Time → Except Str Claims

/-- The token verifies under the secret, at some time, and carries these claims. -/
def PyJwt.Carries (J : PyJwt) (secret token : Str) (claims : Claims) : Prop :=
  ∃ now, J.decode token secret now = .ok claims

/-- A token carries what was signed with the same secret, and decodes only while
it lasts. -/
structure PyJwt.Sound (J : PyJwt) : Prop where
  signed : ∀ claims secret carried, J.Carries secret (J.encode claims secret) carried →
    carried = claims
  unexpired : ∀ token secret now claims, J.decode token secret now = .ok claims →
    now < seconds claims.exp

/-- `int(timestamp)` of a `datetime`, as a claim carries it. -/
def wholeSeconds (t : Time) : Int := t / 1000000

def createToken (J : PyJwt) (userId : Nat) (kind : TokenKind) (ttl : Time) (settings : AuthSettings)
    (now : Time) (jti : Str) : Str :=
  let claims : Claims :=
    { sub := (toString userId).toList
      type := kind.text
      iat := wholeSeconds now
      exp := wholeSeconds (now + ttl)
      jti := some jti }
  J.encode claims settings.jwtSecret

/-- `decode_token`; the error is the text of its `InvalidTokenError`. -/
def decodeToken (P : Platform) (J : PyJwt) (token : Str) (kind : TokenKind)
    (settings : AuthSettings) (now : Time) : Except Str Int := do
  let claims ← J.decode token settings.jwtSecret now
  if claims.type ≠ kind.text then throw ("expected a ".toList ++ kind.text ++ " token".toList)
  match P.int claims.sub with
  | some id => return id
  | none => throw "malformed subject".toList

/-- **What a token that decodes is**: verified by the service, of the kind that was
asked for, unexpired, and naming the id. -/
theorem decodeToken_ok {P : Platform} {J : PyJwt} (hJ : J.Sound) {token : Str} {kind : TokenKind}
    {settings : AuthSettings} {now : Time} {id : Int}
    (h : decodeToken P J token kind settings now = .ok id) :
    ∃ claims, J.Carries settings.jwtSecret token claims ∧ claims.type = kind.text ∧
      now < seconds claims.exp ∧ P.int claims.sub = some id := by
  unfold decodeToken at h
  -- three ways to be refused, before an id comes out: the token, its type, its subject
  cases hdecode : J.decode token settings.jwtSecret now with
  | error e =>
      rw [hdecode] at h
      cases h
  | ok claims =>
      rw [hdecode] at h
      simp only [bind, Except.bind] at h
      by_cases htype : claims.type = kind.text
      · rw [if_neg (not_not_intro htype)] at h
        cases hint : P.int claims.sub with
        | none =>
            rw [hint] at h
            cases h
        | some n =>
            rw [hint] at h
            cases h
            exact ⟨claims, ⟨now, hdecode⟩, htype, hJ.unexpired _ _ _ _ hdecode, hint⟩
      · rw [if_pos htype] at h
        cases h

/-! ## §2. Passwords. -/

/-- `PasswordHasher().verify`, which raises on a mismatch or a malformed hash. -/
structure Argon2 where
  verify : Str → Str → Except Str Bool
  /-- `DUMMY_HASH`. -/
  dummyHash : Str

def verifyPassword (argon : Argon2) (passwordHash password : Str) : Bool :=
  match argon.verify passwordHash password with
  | .ok valid => valid
  | .error _ => false

end Feedcast
