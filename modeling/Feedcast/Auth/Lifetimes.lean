/-
  Feedcast.Auth.Lifetimes — what a captured token is good for.

  Editors log in, refresh and work; users are inserted and deleted by hand; time
  passes.  Beside them somebody without a password and without the secret holds
  captured tokens, presents any of them in either cookie, and keeps whatever a
  response sets.  The service keeps no list of tokens, so what bounds a token is
  its kind, its expiry and the row of its user.

    • `Copies` — a token that verifies carries what one of these tokens carries,
    • `Grounded` — a token names a user the table has had,
    • `Later` — an id that is free now stays free for every token issued so far,
    • `adversary_refresh_refused` — no live refresh token, no new session,
    • `tokens_run_out` — over every run, and for the tokens of deleted users.
-/
import Feedcast.Api.Auth
import Feedcast.Core.Hashing
import Feedcast.Lib.Codes
import Feedcast.Lib.Runs

namespace Feedcast

open Feedcast.Lib

/-! ## §1. The service under use. -/

structure AuthService where
  platform : Platform
  jwt : PyJwt
  argon : Argon2
  settings : AuthSettings

inductive Party
  | editor
  | adversary
  deriving Repr, DecidableEq

inductive AuthRequest
  | login (data : LoginRequest)
  | refresh (cookie : Option Str)
  | logout
  /-- Any other route; `current_user` decides. -/
  | ordinary (cookie : Option Str)
  deriving Repr, DecidableEq

inductive AuthAction
  /-- So many microseconds. -/
  | pass (time : Nat)
  | insertUser (email passwordHash : Str)
  | deleteUser (id : Nat)
  /-- `jtis` are the ids a new pair of tokens would get. -/
  | serve (party : Party) (request : AuthRequest) (jtis : Str × Str)
  deriving Repr, DecidableEq

structure AuthWorld where
  now : Time
  users : List User := []
  /-- The sequence of `users.id`. -/
  nextUserId : Nat := 1
  /-- Every token a response has set. -/
  issued : List Str := []
  /-- The tokens the adversary holds. -/
  captured : List Str := []

/-- The tokens the response to a request sets. -/
def AuthService.sets (S : AuthService) (w : AuthWorld) (request : AuthRequest)
    (jtis : Str × Str) : List Str :=
  match request with
  | .login data =>
      match login S.argon S.jwt S.settings w.users w.now data jtis with
      | .ok (_, session) => session.tokens
      | .error _ => []
  | .refresh cookie =>
      match refresh S.platform S.jwt S.settings w.users w.now cookie jtis with
      | .ok (_, session) => session.tokens
      | .error _ => []
  | .logout => []
  | .ordinary _ => []

def AuthService.step (S : AuthService) (w : AuthWorld) : AuthAction → Option AuthWorld
  | .pass time => some { w with now := w.now + time }
  | .insertUser email passwordHash =>
      -- the check and the unique constraint of the table
      if S.platform.lower email = email ∧ ∀ user ∈ w.users, user.email ≠ email then
        some { w with
          users := w.users ++ [{ id := w.nextUserId, email := email, passwordHash := passwordHash }]
          nextUserId := w.nextUserId + 1 }
      else none
  | .deleteUser id => some { w with users := w.users.filter fun user => user.id ≠ id }
  | .serve party request jtis =>
      let tokens := S.sets w request jtis
      some { w with
        issued := w.issued ++ tokens
        captured := match party with
          | .editor => w.captured
          | .adversary => w.captured ++ tokens }

/-! ## §2. What the adversary cannot do, and what it may not hold. -/

/-- Whatever the token carries, if it verifies, one of these tokens carries too. -/
def AuthService.Copies (S : AuthService) (tokens : List Str) (token : Str) : Prop :=
  ∀ claims, S.jwt.Carries S.settings.jwtSecret token claims →
    ∃ held ∈ tokens, S.jwt.Carries S.settings.jwtSecret held claims

/-- It knows no password of a user, and presents no claims under the signature of
the service that no token it holds carries. -/
def AuthService.Powerless (S : AuthService) (w : AuthWorld) : AuthAction → Prop
  | .serve .adversary (.login data) _ =>
      ∀ user ∈ w.users, verifyPassword S.argon user.passwordHash data.password = false
  | .serve .adversary (.refresh cookie) _ =>
      ∀ token, cookie = some token → S.Copies w.captured token
  | .serve .adversary (.ordinary cookie) _ =>
      ∀ token, cookie = some token → S.Copies w.captured token
  | _ => True

/-- A refresh token, unexpired and of an existing user. -/
def AuthService.LiveRefresh (S : AuthService) (w : AuthWorld) (token : Str) : Prop :=
  ∃ claims, S.jwt.Carries S.settings.jwtSecret token claims ∧
    claims.type = TokenKind.text .refresh ∧ w.now < seconds claims.exp ∧
    ∃ user ∈ w.users, S.platform.int claims.sub = some (user.id : Int)

/-- If it is an access token, its time is over. -/
def AuthService.AccessOver (S : AuthService) (now : Time) (token : Str) : Prop :=
  ∀ claims, S.jwt.Carries S.settings.jwtSecret token claims →
    claims.type = TokenKind.text .access → seconds claims.exp ≤ now

/-- `int` reads back the ids the sequence has given out. -/
def AuthService.ReadsIds (S : AuthService) (w : AuthWorld) : Prop :=
  ∀ id < w.nextUserId, S.platform.int (toString id).toList = some (id : Int)

/-- The adversary is turned away: by `refresh` at any time, by `current_user` once
the access tokens among `captured` are over. -/
def AuthService.TurnsAway (S : AuthService) (captured : List Str) (w : AuthWorld) :
    AuthAction → Prop
  | .serve .adversary (.refresh cookie) jtis =>
      ∀ accepted, refresh S.platform S.jwt S.settings w.users w.now cookie jtis ≠ .ok accepted
  | .serve .adversary (.ordinary cookie) _ =>
      (∀ token ∈ captured, S.AccessOver w.now token) →
        ∀ user, currentUser S.platform S.jwt S.settings w.users w.now cookie ≠ .ok user
  | _ => True

/-! ## §3. Tokens and ids. -/

/-- Every user has an id the sequence has given out, and so has the user every
issued token names. -/
structure AuthService.Grounded (S : AuthService) (w : AuthWorld) : Prop where
  users : ∀ user ∈ w.users, user.id < w.nextUserId
  issued : ∀ token ∈ w.issued, ∃ claims id,
    token = S.jwt.encode claims S.settings.jwtSecret ∧ claims.sub = (toString id).toList ∧
      id < w.nextUserId

/-- Time and the sequence go on, and of the ids given out none comes back. -/
structure Later (w w' : AuthWorld) : Prop where
  now : w.now ≤ w'.now
  nextUserId : w.nextUserId ≤ w'.nextUserId
  users : ∀ user ∈ w'.users, user.id < w.nextUserId → ∃ user' ∈ w.users, user'.id = user.id

section Steps

variable {S : AuthService} {w w' : AuthWorld} {action : AuthAction}

theorem Later.rfl (w : AuthWorld) : Later w w where
  now := le_refl _
  nextUserId := le_refl _
  users := by
    intro user huser _
    exact ⟨user, huser, Eq.refl _⟩

theorem Later.trans {w₁ w₂ w₃ : AuthWorld} (h : Later w₁ w₂) (h' : Later w₂ w₃) :
    Later w₁ w₃ where
  now := le_trans h.now h'.now
  nextUserId := le_trans h.nextUserId h'.nextUserId
  users := by
    intro user huser hid
    obtain ⟨user', hmem, hsame⟩ := h'.users user huser (lt_of_lt_of_le hid h.nextUserId)
    rw [← hsame] at hid ⊢
    exact h.users user' hmem hid

theorem later_step (h : S.step w action = some w') : Later w w' := by
  cases action with
  | pass time =>
      cases h
      exact { Later.rfl w with now := le_add_of_nonneg_right (Int.natCast_nonneg time) }
  -- a new row gets a number that none of the earlier users has
  | insertUser email passwordHash =>
      simp only [AuthService.step] at h
      split at h
      · cases h
        refine { now := le_refl _, nextUserId := Nat.le_succ _, users := ?_ }
        intro user huser hid
        rcases List.mem_append.mp huser with hold | hnew
        · exact ⟨user, hold, Eq.refl _⟩
        · rw [List.mem_singleton.mp hnew] at hid
          exact absurd hid (lt_irrefl _)
      · cases h
  | deleteUser id =>
      cases h
      refine { now := le_refl _, nextUserId := le_refl _, users := ?_ }
      intro user huser _
      exact ⟨user, List.mem_of_mem_filter huser, Eq.refl _⟩
  | serve party request jtis =>
      cases h
      exact { Later.rfl w with }

theorem later_run {actions : List AuthAction} (h : Run S.step w actions w') : Later w w' :=
  h.relates Later.rfl (fun _ _ _ => Later.trans) fun _ _ _ => later_step

/-- A session is two tokens of the user it is for. -/
theorem setSession_tokens {user : User} {now : Time} {jtis : Str × Str} {token : Str}
    (h : token ∈ (setSession S.jwt user S.settings now jtis).tokens) :
    ∃ claims, token = S.jwt.encode claims S.settings.jwtSecret ∧
      claims.sub = (toString user.id).toList := by
  rcases List.mem_cons.mp h with haccess | hrefresh
  · exact ⟨_, haccess, rfl⟩
  · exact ⟨_, List.mem_singleton.mp hrefresh, rfl⟩

/-- The tokens a response sets name a user who is there. -/
theorem sets_of_users {request : AuthRequest} {jtis : Str × Str} {token : Str}
    (h : token ∈ S.sets w request jtis) :
    ∃ user ∈ w.users, ∃ claims, token = S.jwt.encode claims S.settings.jwtSecret ∧
      claims.sub = (toString user.id).toList := by
  cases request with
  | login data =>
      simp only [AuthService.sets] at h
      split at h
      · rename_i user session hlogin
        obtain ⟨hmem, -, rfl⟩ := login_ok hlogin
        exact ⟨user, hmem, setSession_tokens h⟩
      · exact absurd h List.not_mem_nil
  -- the pair goes to the user the cookie was decoded to
  | refresh cookie =>
      simp only [AuthService.sets] at h
      split at h
      · rename_i user session hrefresh
        obtain ⟨huser, rfl⟩ := refresh_ok hrefresh
        obtain ⟨-, -, -, hmem⟩ := userOfCookie_ok huser
        exact ⟨user, hmem, setSession_tokens h⟩
      · exact absurd h List.not_mem_nil
  | logout => exact absurd h List.not_mem_nil
  | ordinary cookie => exact absurd h List.not_mem_nil

theorem grounded_step (hw : S.Grounded w) (h : S.step w action = some w') : S.Grounded w' := by
  cases action with
  | pass time =>
      cases h
      exact { users := hw.users, issued := hw.issued }
  | insertUser email passwordHash =>
      simp only [AuthService.step] at h
      split at h
      · cases h
        refine { users := ?_, issued := ?_ }
        · intro user huser
          rcases List.mem_append.mp huser with hold | hnew
          · exact Nat.lt_succ_of_lt (hw.users user hold)
          · rw [List.mem_singleton.mp hnew]
            exact Nat.lt_succ_self _
        · intro token htoken
          obtain ⟨claims, id, hsigned, hsub, hid⟩ := hw.issued token htoken
          exact ⟨claims, id, hsigned, hsub, Nat.lt_succ_of_lt hid⟩
      · cases h
  | deleteUser id =>
      cases h
      refine { users := ?_, issued := hw.issued }
      intro user huser
      exact hw.users user (List.mem_of_mem_filter huser)
  | serve party request jtis =>
      cases h
      refine { users := hw.users, issued := ?_ }
      intro token htoken
      rcases List.mem_append.mp htoken with hold | hnew
      · exact hw.issued token hold
      -- a token names the user it was minted for, who was there at the time
      · obtain ⟨user, hmem, claims, hsigned, hsub⟩ := sets_of_users hnew
        exact ⟨claims, user.id, hsigned, hsub, hw.users user hmem⟩

theorem grounded_run {now : Time} {actions : List AuthAction}
    (h : Run S.step { now := now } actions w) : S.Grounded w := by
  refine h.invariant (fun _ _ _ hI hstep => grounded_step hI hstep) ?_
  refine { users := ?_, issued := ?_ }
  · intro user huser
    exact absurd huser List.not_mem_nil
  · intro token htoken
    exact absurd htoken List.not_mem_nil

end Steps

/-! ## §4. Presented tokens. -/

section Presented

variable {S : AuthService} {w₀ w : AuthWorld} {token : Str} {kind : TokenKind} {user : User}

/-- **An issued token that is accepted** was, from the start, an unexpired token
of its kind and of a user who was there. -/
theorem accepted_was_live (hJ : S.jwt.Sound) (hint : S.ReadsIds w₀)
    (hw₀ : S.Grounded w₀) (hlater : Later w₀ w) (hissued : S.Copies w₀.issued token)
    (huser : user ∈ w.users)
    (hdecode : decodeToken S.platform S.jwt token kind S.settings w.now = .ok (user.id : Int)) :
    ∃ claims, S.jwt.Carries S.settings.jwtSecret token claims ∧ claims.type = kind.text ∧
      w.now < seconds claims.exp ∧
      ∃ user ∈ w₀.users, S.platform.int claims.sub = some (user.id : Int) := by
  obtain ⟨claims, hcarries, htype, hexp, hsub⟩ := decodeToken_ok hJ hdecode
  obtain ⟨held, hheld, hsame⟩ := hissued claims hcarries
  obtain ⟨claims', id, rfl, hsub', hid⟩ := hw₀.issued held hheld
  -- the claims that are read are those a token was issued with
  obtain rfl := hJ.signed _ _ _ hsame
  rw [hsub', hint id hid] at hsub
  have hsame : id = user.id := by simpa using hsub
  rw [hsame] at hid
  obtain ⟨user', hmem, hid'⟩ := hlater.users user huser hid
  refine ⟨claims, hcarries, htype, hexp, user', hmem, ?_⟩
  rw [hsub', hsame, hid', hint user.id hid]

/-- **NO LIVE REFRESH TOKEN, NO NEW SESSION.** -/
theorem adversary_refresh_refused (hJ : S.jwt.Sound) (hint : S.ReadsIds w₀)
    (hw₀ : S.Grounded w₀) (hlater : Later w₀ w)
    (hheld : ∀ token ∈ w.captured, S.Copies w₀.issued token)
    (hnone : ∀ token ∈ w.captured, ¬ S.LiveRefresh w₀ token) {cookie : Option Str}
    {jtis : Str × Str} (hpower : S.Powerless w (.serve .adversary (.refresh cookie) jtis)) :
    ∀ accepted, refresh S.platform S.jwt S.settings w.users w.now cookie jtis ≠ .ok accepted := by
  intro accepted h
  obtain ⟨user, session⟩ := accepted
  obtain ⟨hcookie, -⟩ := refresh_ok h
  obtain ⟨token, rfl, hdecode, huser⟩ := userOfCookie_ok hcookie
  -- what the presented token carries was captured, and what was captured was issued
  have hissued : S.Copies w₀.issued token := by
    intro claims hcarries
    obtain ⟨held, hmem, hsame⟩ := hpower token rfl claims hcarries
    exact hheld held hmem claims hsame
  obtain ⟨claims, hcarries, htype, hexp, hlive⟩ :=
    accepted_was_live hJ hint hw₀ hlater hissued huser hdecode
  obtain ⟨held, hmem, hsame⟩ := hpower token rfl claims hcarries
  exact hnone held hmem ⟨claims, hsame, htype, lt_of_le_of_lt hlater.now hexp, hlive⟩

/-- Once its access tokens are over, the adversary is nobody. -/
theorem adversary_request_refused (hJ : S.jwt.Sound)
    (hheld : ∀ token ∈ w.captured, S.AccessOver w.now token)
    {cookie : Option Str} {jtis : Str × Str}
    (hpower : S.Powerless w (.serve .adversary (.ordinary cookie) jtis)) :
    ∀ user, currentUser S.platform S.jwt S.settings w.users w.now cookie ≠ .ok user := by
  intro user h
  obtain ⟨token, rfl, hdecode, -⟩ := userOfCookie_ok h
  obtain ⟨claims, hcarries, htype, hexp, -⟩ := decodeToken_ok hJ hdecode
  obtain ⟨held, hmem, hsame⟩ := hpower token rfl claims hcarries
  exact absurd hexp (not_lt_of_ge (hheld held hmem claims hsame htype))

/-- A login without the password of a user sets nothing. -/
theorem adversary_login_sets {data : LoginRequest} {jtis : Str × Str}
    (hpower : S.Powerless w (.serve .adversary (.login data) jtis)) :
    S.sets w (.login data) jtis = [] := by
  simp only [AuthService.sets]
  split
  · rename_i user session hlogin
    obtain ⟨hmem, hvalid, -⟩ := login_ok hlogin
    have hwrong : verifyPassword S.argon user.passwordHash data.password = false := hpower user hmem
    rw [hwrong] at hvalid
    cases hvalid
  · rfl

/-- **A deleted user's tokens are dead**, whenever they are presented. -/
theorem deleted_refused (hJ : S.jwt.Sound) {id : Nat}
    (hint : S.platform.int (toString id).toList = some (id : Int))
    (hsub : ∀ claims, S.jwt.Carries S.settings.jwtSecret token claims →
      claims.sub = (toString id).toList)
    (hgone : ∀ user ∈ w.users, user.id ≠ id) :
    ∀ user, userOfCookie S.platform S.jwt S.settings w.users w.now kind (some token)
      ≠ .ok user := by
  intro user h
  obtain ⟨_, htoken, hdecode, huser⟩ := userOfCookie_ok h
  cases htoken
  obtain ⟨claims, hcarries, -, -, hid⟩ := decodeToken_ok hJ hdecode
  -- the subject reads back as the id that is gone
  rw [hsub claims hcarries, hint] at hid
  have hsame : id = user.id := by simpa using hid
  exact hgone user huser hsame.symm

end Presented

/-! ## §5. Over every run. -/

/-- An adversary that is turned away keeps the tokens it came with. -/
theorem captured_along {S : AuthService} (hJ : S.jwt.Sound) {w₀ : AuthWorld}
    (hint : S.ReadsIds w₀) (hw₀ : S.Grounded w₀)
    (hheld : ∀ token ∈ w₀.captured, S.Copies w₀.issued token)
    (hnone : ∀ token ∈ w₀.captured, ¬ S.LiveRefresh w₀ token) {actions : List AuthAction}
    (hpower : Along S.step S.Powerless w₀ actions) :
    Throughout S.step (fun w => Later w₀ w ∧ w.captured = w₀.captured) w₀ actions := by
  refine invariant_along ?_ ⟨Later.rfl w₀, rfl⟩ hpower
  intro w action w' hI hC hstep
  obtain ⟨hlater, hcaptured⟩ := hI
  refine ⟨hlater.trans (later_step hstep), ?_⟩
  cases action with
  | pass time =>
      cases hstep
      exact hcaptured
  | insertUser email passwordHash =>
      simp only [AuthService.step] at hstep
      split at hstep
      · cases hstep
        exact hcaptured
      · cases hstep
  | deleteUser id =>
      cases hstep
      exact hcaptured
  | serve party request jtis =>
      cases hstep
      cases party with
      | editor => exact hcaptured
      | adversary =>
          -- the adversary is given no token: no password, no refresh token, no forgery
          have hsets : S.sets w request jtis = [] := by
            cases request with
            | login data => exact adversary_login_sets hC
            | refresh cookie =>
                simp only [AuthService.sets]
                split
                · rename_i user session hrefresh
                  rw [← hcaptured] at hheld hnone
                  exact absurd hrefresh
                    (adversary_refresh_refused hJ hint hw₀ hlater hheld hnone hC _)
                · rfl
            | logout => rfl
            | ordinary cookie => rfl
          show w.captured ++ S.sets w request jtis = w₀.captured
          rw [hsets, List.append_nil, hcaptured]

/-- One request of such an adversary, at any later time. -/
theorem turnsAway_step {S : AuthService} (hJ : S.jwt.Sound) {w₀ w : AuthWorld}
    (hint : S.ReadsIds w₀) (hw₀ : S.Grounded w₀) (hlater : Later w₀ w)
    (hheld : ∀ token ∈ w.captured, S.Copies w₀.issued token)
    (hnone : ∀ token ∈ w.captured, ¬ S.LiveRefresh w₀ token) {action : AuthAction}
    (hpower : S.Powerless w action) : S.TurnsAway w.captured w action := by
  cases action with
  | serve party request jtis =>
      cases party with
      | editor => exact trivial
      | adversary =>
          cases request with
          -- only these two requests read a token
          | refresh cookie => exact adversary_refresh_refused hJ hint hw₀ hlater hheld hnone hpower
          | ordinary cookie =>
              intro hover
              exact adversary_request_refused hJ hover hpower
          | login data => exact trivial
          | logout => exact trivial
  | pass time => exact trivial
  | insertUser email passwordHash => exact trivial
  | deleteUser id => exact trivial

/-- **A user that is deleted stays deleted**: an id is not given out again. -/
theorem deleted_stays {S : AuthService} {w₀ w : AuthWorld} (hw₀ : S.Grounded w₀) {user : User}
    (huser : user ∈ w₀.users) {actions : List AuthAction}
    (hrun : Run S.step w₀ (.deleteUser user.id :: actions) w) :
    ∀ user' ∈ w.users, user'.id ≠ user.id := by
  cases hrun with
  | cons hdelete hrest =>
      cases hdelete
      intro user' huser' hid
      -- a later user with an id below the counter was there right after the delete
      obtain ⟨kept, hkept, hsame⟩ := (later_run hrest).users user' huser' (by
        rw [hid]
        exact hw₀.users user huser)
      obtain ⟨-, hne⟩ := List.mem_filter.mp hkept
      rw [hsame, hid] at hne
      simp at hne

/-- **AN ACCESS TOKEN BUYS NOTHING BEYOND ITS LIFETIME.**  In every run from a
state the service can reach, an adversary that starts with captured tokens, none
of them a live refresh token, is turned away by every refresh, and by every
other route once its access tokens are over.  And from the deletion of a user on,
nothing signed for that user is accepted anywhere. -/
theorem tokens_run_out {S : AuthService} (hJ : S.jwt.Sound) {now : Time}
    {history : List AuthAction} {w₀ : AuthWorld} (h₀ : Run S.step { now := now } history w₀)
    (hint : S.ReadsIds w₀) :
    (∀ captured : List Str, (∀ token ∈ captured, S.Copies w₀.issued token) →
      (∀ token ∈ captured, ¬ S.LiveRefresh w₀ token) →
      ∀ actions, Along S.step S.Powerless { w₀ with captured := captured } actions →
        Along S.step (S.TurnsAway captured) { w₀ with captured := captured } actions) ∧
    (∀ user ∈ w₀.users, ∀ actions w, Run S.step w₀ (.deleteUser user.id :: actions) w →
      ∀ token, (∀ claims, S.jwt.Carries S.settings.jwtSecret token claims →
          claims.sub = (toString user.id).toList) →
        (∀ found, currentUser S.platform S.jwt S.settings w.users w.now (some token)
          ≠ .ok found) ∧
        (∀ jtis accepted, refresh S.platform S.jwt S.settings w.users w.now (some token) jtis
          ≠ .ok accepted)) := by
  have hw₀ := grounded_run h₀
  refine ⟨?_, ?_⟩
  · intro captured hheld hnone actions hpower
    have hstart : S.Grounded { w₀ with captured := captured } :=
      { users := hw₀.users, issued := hw₀.issued }
    have hint : S.ReadsIds { w₀ with captured := captured } := hint
    have hkept := captured_along hJ hint hstart hheld hnone hpower
    intro pre action hpre w hrun
    obtain ⟨hlater, hcaptured⟩ := hkept pre ((List.prefix_append pre [action]).trans hpre) w hrun
    have hpower := hpower pre action hpre w hrun
    -- in between the adversary has won nothing
    have hcap : w.captured = captured := hcaptured
    rw [← hcap] at hheld hnone ⊢
    exact turnsAway_step hJ hint hstart hlater hheld hnone hpower
  · intro user huser actions w hrun token hsub
    have hgone := deleted_stays hw₀ huser hrun
    have hread := hint user.id (hw₀.users user huser)
    refine ⟨deleted_refused hJ hread hsub hgone, ?_⟩
    intro jtis accepted h
    obtain ⟨found, session⟩ := accepted
    exact deleted_refused hJ hread hsub hgone found (refresh_ok h).1

/-! ## §6. A service in plain. -/

/-- One field of a plain token: every character marked, and a full stop. -/
def plainField (field : Str) : Str := field.flatMap (fun ch => ['_', ch]) ++ ['.']

theorem plainField_prefixFree : PrefixFree plainField := by
  intro a
  -- a field ends with the mark that no character of it carries
  induction a with
  | nil =>
      intro b s t h
      cases b with
      | nil => exact ⟨rfl, List.cons_injective h⟩
      | cons ch b => simp [plainField] at h
  | cons ch a ih =>
      intro b s t h
      cases b with
      | nil => simp [plainField] at h
      | cons ch' b =>
          simp only [plainField, List.flatMap_cons, List.cons_append, List.nil_append,
            List.cons.injEq, true_and] at h
          obtain ⟨hch, htail⟩ := h
          obtain ⟨hab, hst⟩ := ih b s t htail
          rw [hch, hab]
          exact ⟨rfl, hst⟩

/-- The fields of a plain token. -/
def plainFields : Str → Str → List Str
  | '.' :: rest, field => field.reverse :: plainFields rest []
  | '_' :: ch :: rest, field => plainFields rest (ch :: field)
  | _, _ => []

/-- A whole number, with its sign. -/
def plainInt (n : Int) : Str := (if 0 ≤ n then '+' else '-') :: Nat.toDigits 10 n.natAbs

def readInt : Str → Option Int
  | '+' :: digits => some (Nat.ofDigitChars 10 digits 0)
  | '-' :: digits => some (-(Nat.ofDigitChars 10 digits 0))
  | _ => none

theorem readInt_plainInt (n : Int) : readInt (plainInt n) = some n := by
  unfold plainInt
  by_cases hn : 0 ≤ n
  · rw [if_pos hn, readInt, Nat.ofDigitChars_ten_toDigits, Int.natAbs_of_nonneg hn]
  · rw [if_neg hn, readInt, Nat.ofDigitChars_ten_toDigits, Int.ofNat_natAbs_of_nonpos (by omega),
      neg_neg]

def plainEncode (claims : Claims) (secret : Str) : Str :=
  [claims.sub, claims.type, plainInt claims.iat, plainInt claims.exp,
    (claims.jti.map ('+' :: ·)).getD [], secret].flatMap plainField

/-- Tokens that carry their claims in plain, and the secret for a signature. -/
def plainJwt : PyJwt where
  encode := plainEncode
  decode token secret now :=
    match plainFields token [] with
    | [sub, type, iat, exp, jti, _] =>
        match readInt iat, readInt exp with
        | some iat, some exp =>
            let claims : Claims :=
              { sub := sub, type := type, iat := iat, exp := exp, jti := jti.tail? }
            if plainEncode claims secret ≠ token then
              .error "Signature verification failed".toList
            else if seconds exp ≤ now then .error "Signature has expired".toList
            else .ok claims
        | _, _ => .error "Invalid payload".toList
    | _ => .error "Not enough segments".toList

theorem plainEncode_injective {claims claims' : Claims} {secret : Str}
    (h : plainEncode claims secret = plainEncode claims' secret) : claims = claims' := by
  have hfields := plainField_prefixFree.flatMap_injective (fun _ => by simp [plainField]) h
  simp only [List.cons.injEq] at hfields
  obtain ⟨hsub, htype, hiat, hexp, hjti, -⟩ := hfields
  -- a number is written in decimal, and read back
  have hint {n m : Int} (h : plainInt n = plainInt m) : n = m := by
    have hread := congrArg readInt h
    rw [readInt_plainInt, readInt_plainInt] at hread
    exact Option.some.inj hread
  have hjti : claims.jti = claims'.jti := by
    cases hj : claims.jti with
    | none =>
        cases hj' : claims'.jti with
        | none => rfl
        | some j' => simp [hj, hj'] at hjti
    | some j =>
        cases hj' : claims'.jti with
        | none => simp [hj, hj'] at hjti
        | some j' => simpa [hj, hj'] using hjti
  exact Claims.ext hsub htype (hint hiat) (hint hexp) hjti

/-- A plain token carries what it was signed with. -/
theorem plainJwt_decode {token secret : Str} {now : Time} {claims : Claims}
    (h : plainJwt.decode token secret now = .ok claims) :
    token = plainEncode claims secret ∧ now < seconds claims.exp := by
  simp only [plainJwt] at h
  split at h
  · split at h
    · split_ifs at h with hsigned hexp
      cases h
      exact ⟨(not_not.mp hsigned).symm, not_le.mp hexp⟩
    · cases h
  · cases h

theorem plainJwt_sound : plainJwt.Sound where
  signed := by
    intro claims secret carried ⟨now, h⟩
    exact (plainEncode_injective (plainJwt_decode h).1).symm
  unexpired := by
    intro token secret now claims h
    exact (plainJwt_decode h).2

/-- On the ASCII platform, `int` reads what `str` writes. -/
theorem feedless_int (n : Nat) : feedless.int (toString n).toList = some (n : Int) := by
  have hdigits : (toString n).toList = Nat.toDigits 10 n := Nat.toList_repr
  have hall : (Nat.toDigits 10 n).all Char.isDigit := by
    rw [List.all_eq_true]
    intro ch hch
    exact Nat.isDigit_of_mem_toDigits (by omega) (by omega) hch
  -- read digit by digit, the decimal form gives the number back
  have hfold : (Nat.toDigits 10 n).foldl (fun m ch => m * 10 + (ch.toNat - 48)) 0 = n := by
    have h := Nat.ofDigitChars_ten_toDigits (n := n)
    rw [Nat.ofDigitChars_eq_foldl] at h
    simp only [Nat.mul_comm 10] at h
    exact h
  rw [hdigits]
  show (if _ then some _ else none) = _
  rw [if_pos ⟨Nat.toDigits_ne_nil, hall⟩, hfold]

/-- A service in plain; passwords are their own hashes. -/
def plainService : AuthService where
  platform := feedless
  jwt := plainJwt
  argon :=
    { verify := fun passwordHash password =>
        if passwordHash = password then .ok true else .error "mismatch".toList
      dummyHash := "dummy".toList }
  settings :=
    { defaultSettings with
      jwtSecret := List.replicate 32 's'
      strong_secret := Nat.le_of_eq List.length_replicate.symm }

/-- A user is inserted and logs in. -/
def firstLogin : List AuthAction :=
  [.insertUser "e@x".toList "pw".toList,
   .serve .editor (.login { email := "e@x".toList, password := "pw".toList }) ([], [])]

/-- The access token of that session. -/
def firstAccess : Str :=
  createToken plainJwt 1 .access (seconds (15 * 60)) plainService.settings 0 []

/-- It is tried in both cookies, and again when it is over. -/
def bothCookies : List AuthAction :=
  [.serve .adversary (.refresh (some firstAccess)) ([], []),
   .serve .adversary (.ordinary (some firstAccess)) ([], []),
   .pass 900000000,
   .serve .adversary (.ordinary (some firstAccess)) ([], [])]

theorem bothCookies_powerless {w : AuthWorld} (h : firstAccess ∈ w.captured) :
    Along plainService.step plainService.Powerless w bothCookies := by
  -- he presents the one token he has, and no other
  have hpresents {w : AuthWorld} (h : firstAccess ∈ w.captured) (token : Str)
      (htoken : some firstAccess = some token) : plainService.Copies w.captured token := by
    intro claims hcarries
    rw [← Option.some.inj htoken] at hcarries
    exact ⟨firstAccess, h, hcarries⟩
  refine along_cons.mpr ⟨hpresents h, ?_⟩
  intro w₁ h₁
  cases h₁
  have h := List.mem_append_left (plainService.sets w (.refresh (some firstAccess)) ([], [])) h
  refine along_cons.mpr ⟨hpresents h, ?_⟩
  intro w₂ h₂
  cases h₂
  refine along_cons.mpr ⟨trivial, ?_⟩
  intro w₃ h₃
  cases h₃
  refine along_cons.mpr ⟨hpresents (List.mem_append_left _ h), ?_⟩
  intro w₄ _
  exact along_nil

theorem tokens_run_out_of_firstAccess :
    ∃ w₀, Run plainService.step { now := 0 } firstLogin w₀ ∧
      firstAccess ∈ w₀.issued ∧
      Along plainService.step (plainService.TurnsAway [firstAccess])
        { w₀ with captured := [firstAccess] } bothCookies := by
  have hrun : Run plainService.step { now := 0 } firstLogin _ := run_iff_exec.mpr rfl
  refine ⟨_, hrun, List.mem_cons_self, ?_⟩
  refine (tokens_run_out plainJwt_sound hrun fun id _ => feedless_int id).1 [firstAccess] ?_ ?_
    bothCookies ?_
  · intro token htoken claims hcarries
    rw [List.mem_singleton.mp htoken] at hcarries
    exact ⟨firstAccess, List.mem_cons_self, hcarries⟩
  -- an access token is no refresh token, so that nothing keeps him in
  · intro token htoken hlive
    obtain ⟨claims, hcarries, htype, -⟩ := hlive
    rw [List.mem_singleton.mp htoken] at hcarries
    obtain rfl := plainJwt_sound.signed _ _ _ hcarries
    exact absurd htype (by decide)
  · exact bothCookies_powerless List.mem_cons_self

end Feedcast
