/-
  Feedcast.Api.Auth — login, silent refresh, logout, and the check of every
  other route (`api/v1/endpoints/auth.py`, `api/deps.py`).

  A handler reads the `users` table once, and that read is the moment it is
  served.  Users are inserted and deleted by hand.
-/
import Feedcast.Api.Carousels
import Feedcast.Core.Security
import Feedcast.Core.Text

namespace Feedcast

/-! ## §1. Users and cookies. -/

/-- An editor who can log in. -/
structure User where
  id : Nat
  email : Str
  passwordHash : Str
  deriving Repr, DecidableEq

/-- `db.get(User, user_id)`. -/
def getUser (users : List User) (id : Int) : Option User := users.find? fun user => user.id = id

def unauthorized (detail : Str) : HttpError := { status := 401, detail := detail }

def notLoggedIn : HttpError := unauthorized "not logged in".toList

/-- A `Set-Cookie` header; all are `HttpOnly` and `SameSite=Lax`. -/
structure SetCookie where
  name : Str
  value : Str
  maxAge : Int
  path : Str
  secure : Bool
  deriving Repr, DecidableEq

def accessCookie : Str := "feedcast_access".toList

def refreshCookie : Str := "feedcast_refresh".toList

def refreshPath : Str := "/api/v1/auth".toList

/-- The pair of cookies a session is. -/
structure SessionCookies where
  access : SetCookie
  refresh : SetCookie
  deriving Repr, DecidableEq

def SessionCookies.tokens (session : SessionCookies) : List Str :=
  [session.access.value, session.refresh.value]

/-- `_set_session`. -/
def setSession (J : PyJwt) (user : User) (settings : AuthSettings) (now : Time)
    (jtis : Str × Str) : SessionCookies :=
  let accessTtl := seconds (settings.accessTokenMinutes * 60)
  let refreshTtl := hours (settings.refreshTokenDays * 24)
  { access :=
      { name := accessCookie
        value := createToken J user.id .access accessTtl settings now jtis.1
        maxAge := settings.accessTokenMinutes * 60
        path := "/".toList
        secure := settings.cookieSecure }
    refresh :=
      { name := refreshCookie
        value := createToken J user.id .refresh refreshTtl settings now jtis.2
        maxAge := settings.refreshTokenDays * 24 * 3600
        path := refreshPath
        secure := settings.cookieSecure } }

/-! ## §2. The handlers. -/

/-- The body of a login as its schema hands it on: `normalize_email` has been applied. -/
structure LoginRequest where
  email : Str
  password : Str
  deriving Repr, DecidableEq

def login (argon : Argon2) (J : PyJwt) (settings : AuthSettings) (users : List User) (now : Time)
    (data : LoginRequest) (jtis : Str × Str) : Handler (User × SessionCookies) :=
  let user := users.find? fun user => user.email = data.email
  let valid := verifyPassword argon ((user.map (·.passwordHash)).getD argon.dummyHash) data.password
  match user with
  | none => .error (unauthorized "wrong email or password".toList)
  | some user =>
      if valid then .ok (user, setSession J user settings now jtis)
      else .error (unauthorized "wrong email or password".toList)

/-- What `refresh` and `current_user` do with their cookie: decode it as a token of
one kind, and load the row of the user it names. -/
def userOfCookie (P : Platform) (J : PyJwt) (settings : AuthSettings) (users : List User)
    (now : Time) (kind : TokenKind) (cookie : Option Str) : Handler User :=
  match cookie with
  | none => .error notLoggedIn
  | some token =>
      match decodeToken P J token kind settings now with
      | .error _ => .error (unauthorized "session expired".toList)
      | .ok userId =>
          match getUser users userId with
          | none => .error notLoggedIn
          | some user => .ok user

def refresh (P : Platform) (J : PyJwt) (settings : AuthSettings) (users : List User) (now : Time)
    (feedcastRefresh : Option Str) (jtis : Str × Str) : Handler (User × SessionCookies) := do
  let user ← userOfCookie P J settings users now .refresh feedcastRefresh
  return (user, setSession J user settings now jtis)

/-- `current_user`, which every other route depends on. -/
def currentUser (P : Platform) (J : PyJwt) (settings : AuthSettings) (users : List User)
    (now : Time) (feedcastAccess : Option Str) : Handler User :=
  userOfCookie P J settings users now .access feedcastAccess

/-- `logout` deletes both cookies of this browser, and nothing else. -/
def logout (settings : AuthSettings) : SessionCookies where
  access :=
    { name := accessCookie, value := [], maxAge := 0, path := "/".toList
      secure := settings.cookieSecure }
  refresh :=
    { name := refreshCookie, value := [], maxAge := 0, path := refreshPath
      secure := settings.cookieSecure }

/-! ## §3. What an accepted request shows. -/

section Accepted

variable {argon : Argon2} {P : Platform} {J : PyJwt} {settings : AuthSettings}
  {users : List User} {now : Time} {cookie : Option Str} {jtis : Str × Str} {user : User}
  {session : SessionCookies}

theorem getUser_some {id : Int} (h : getUser users id = some user) :
    user ∈ users ∧ (user.id : Int) = id := by
  refine ⟨List.mem_of_find?_eq_some h, ?_⟩
  simpa using List.find?_some h

theorem login_ok {data : LoginRequest}
    (h : login argon J settings users now data jtis = .ok (user, session)) :
    user ∈ users ∧ verifyPassword argon user.passwordHash data.password = true ∧
      session = setSession J user settings now jtis := by
  unfold login at h
  cases hfind : users.find? (fun user => user.email = data.email) with
  | none =>
      rw [hfind] at h
      cases h
  | some found =>
      rw [hfind] at h
      simp only [Option.map_some, Option.getD_some] at h
      -- an unknown address and a wrong password are refused alike
      by_cases hvalid : verifyPassword argon found.passwordHash data.password = true
      · rw [if_pos hvalid] at h
        cases h
        exact ⟨List.mem_of_find?_eq_some hfind, hvalid, rfl⟩
      · rw [if_neg hvalid] at h
        cases h

/-- A cookie that is accepted holds a token of the right kind, of a user who is
there. -/
theorem userOfCookie_ok {kind : TokenKind}
    (h : userOfCookie P J settings users now kind cookie = .ok user) :
    ∃ token, cookie = some token ∧
      decodeToken P J token kind settings now = .ok (user.id : Int) ∧ user ∈ users := by
  cases cookie with
  | none => cases h
  | some token =>
      unfold userOfCookie at h
      simp only at h
      cases hdecode : decodeToken P J token kind settings now with
      | error e =>
          rw [hdecode] at h
          cases h
      | ok userId =>
          rw [hdecode] at h
          simp only at h
          -- the token can outlive its user
          cases hget : getUser users userId with
          | none =>
              rw [hget] at h
              cases h
          | some found =>
              rw [hget] at h
              cases h
              obtain ⟨hmem, hid⟩ := getUser_some hget
              rw [← hid] at hdecode
              exact ⟨token, rfl, hdecode, hmem⟩

theorem refresh_ok (h : refresh P J settings users now cookie jtis = .ok (user, session)) :
    userOfCookie P J settings users now .refresh cookie = .ok user ∧
      session = setSession J user settings now jtis := by
  unfold refresh at h
  obtain ⟨found, hfound, h⟩ := Lib.except_bind_ok.mp h
  cases h
  exact ⟨hfound, rfl⟩

end Accepted

end Feedcast
