/-
  Feedcast.Session.Survival — an editor at work is never asked to log in again.

  The page of one editor, the jar of their browser and the service, over time.
  Requests carry the cookies the jar has when they are sent, are served at any
  time after that, and their responses arrive in any order; the cookies a refresh
  sets reach the jar with its response.

    • `Tab` — the page, the jar, the requests on their way and the `users` table,
    • `Timely` — what the editor is owed: refreshes and retries are served while
      the tokens they carry last, no refresh is lost, and the user is not deleted,
    • `Tab.page_run` — the page of a tab runs as `ApiPage.step` says,
    • `stays_signed_in` — then no call ends with a 401, and `#login` never shows.
-/
import Feedcast.Auth.Lifetimes
import Feedcast.Session.Refresh
import Feedcast.Session.Gate

namespace Feedcast

open Feedcast.Lib

/-! ## §1. The page, the jar and the service. -/

structure JarCookie where
  value : Str
  /-- When its `Max-Age` is over. -/
  expires : Time
  /-- When the response that set it was served. -/
  served : Time
  deriving Repr, DecidableEq

/-- What a request carries of a cookie. -/
def JarCookie.sent (cookie : Option JarCookie) (now : Time) : Option JarCookie :=
  cookie.filter fun cookie => now < cookie.expires

/-- A request to one of the routes a session is asked for. -/
structure Wire where
  cookie : Option JarCookie
  /-- The status it was answered with, once it was served. -/
  answer : Option Nat := none
  deriving Repr, DecidableEq

/-- `POST /auth/refresh`. -/
structure RefreshWire where
  cookie : Option JarCookie
  /-- The cookies it was answered with, if it was accepted, and when. -/
  answer : Option (Option (SessionCookies × Time)) := none
  deriving Repr, DecidableEq

structure Tab where
  now : Time
  users : List User
  access : Option JarCookie
  refresh : Option JarCookie
  page : ApiPage Wire := {}
  /-- The refreshes of the page, in the same order. -/
  refreshes : List RefreshWire := []
  gate : Gate
  deriving Repr, DecidableEq

inductive TabAction
  | pass (time : Nat)
  | deleteUser (id : Nat)
  | call (path : Str)
  /-- `status` is what the route answers an editor. -/
  | serve (i : Nat) (status : Nat)
  | deliver (i : Nat) (deck : Bool)
  | lose (i : Nat) (deck : Bool)
  | serveRefresh (n : Nat) (jtis : Str × Str)
  | deliverRefresh (n : Nat)
  | loseRefresh (n : Nat)
  | landed (n : Nat)
  | resume (i : Nat) (deck : Bool)
  | assign (hash : Str)
  | click (tab : Route) (deck : Bool)
  | hashchange (deck : Bool)
  deriving Repr, DecidableEq

/-- The request of a call that is on its way. -/
def ApiPage.wire (page : ApiPage Wire) (i : Nat) : Option Wire :=
  match (page.calls[i]?).map ApiCall.stage with
  | some (.first wire) => some wire
  | some (.second _ wire) => some wire
  | _ => none

/-- The second request of a call that is on its way. -/
def ApiPage.retry (page : ApiPage Wire) (i : Nat) : Option Wire :=
  match (page.calls[i]?).map ApiCall.stage with
  | some (.second _ wire) => some wire
  | _ => none

/-- The page goes on: a refresh it has sent is on its way, and an event it has
dispatched reaches the gate. -/
def Tab.became (tab : Tab) (deck : Bool) (page : ApiPage Wire) : Tab :=
  { tab with
    page := page
    refreshes :=
      if page.refreshing.legs.length = tab.page.refreshing.legs.length then tab.refreshes
      else tab.refreshes ++ [{ cookie := JarCookie.sent tab.refresh tab.now }]
    gate := if page.loggedOut = tab.page.loggedOut then tab.gate else tab.gate.loggedOut deck }

/-- `Set-Cookie`. -/
def SetCookie.stored (cookie : SetCookie) (now served : Time) : JarCookie where
  value := cookie.value
  expires := now + seconds cookie.maxAge
  served := served

/-- The response to a refresh reaches the browser. -/
def Tab.refreshed (tab : Tab) (answer : Option (SessionCookies × Time)) (flight : Flight Bool) :
    Tab :=
  let tab := { tab with page := { tab.page with refreshing := flight } }
  match answer with
  | none => tab
  | some (session, served) =>
      { tab with
        access := some (session.access.stored tab.now served)
        refresh := some (session.refresh.stored tab.now served) }

/-- The route a request of a call is for: its own status, or 401. -/
def AuthService.status (S : AuthService) (tab : Tab) (wire : Wire) (status : Nat) : Nat :=
  match currentUser S.platform S.jwt S.settings tab.users tab.now (wire.cookie.map (·.value)) with
  | .ok _ => status
  | .error _ => 401

def AuthService.refreshAnswer (S : AuthService) (tab : Tab) (wire : RefreshWire)
    (jtis : Str × Str) : Option (SessionCookies × Time) :=
  match Feedcast.refresh S.platform S.jwt S.settings tab.users tab.now
    (wire.cookie.map (·.value)) jtis with
  | .ok (_, session) => some (session, tab.now)
  | .error _ => none

def AuthService.tabStep (S : AuthService) (tab : Tab) : TabAction → Option Tab
  | .pass time => some { tab with now := tab.now + time }
  | .deleteUser id => some { tab with users := tab.users.filter fun user => user.id ≠ id }
  | .call path =>
      -- the picker and the views, none of which is there before the first session
      if underAuth path || tab.gate.authed.isNone then none
      else some { tab with
        page := tab.page.call path { cookie := JarCookie.sent tab.access tab.now } }
  | .serve i status =>
      -- no route but those of `/auth/` answers 401 to an editor
      if status = 401 then none
      else
        match tab.page.wire i with
        | none => none
        | some wire =>
            match wire.answer with
            | some _ => none
            | none =>
                (tab.page.progress i fun wire =>
                    { wire with answer := some (S.status tab wire status) }).map fun page =>
                  { tab with page := page }
  | .deliver i deck =>
      match (tab.page.wire i).bind (·.answer) with
      | none => none
      | some status => (tab.page.respond i (.status status)).map (tab.became deck)
  | .lose i deck => (tab.page.respond i .failed).map (tab.became deck)
  | .serveRefresh n jtis =>
      match tab.refreshes[n]? with
      | none => none
      | some wire =>
          match wire.answer with
          | some _ => none
          | none =>
              some { tab with
                refreshes := tab.refreshes.set n
                  { wire with answer := some (S.refreshAnswer tab wire jtis) } }
  | .deliverRefresh n =>
      match (tab.refreshes[n]?).bind (·.answer) with
      | none => none
      | some answer => (tab.page.refreshing.answer n answer.isSome).map (tab.refreshed answer)
  | .loseRefresh n => (tab.page.refreshing.answer n false).map (tab.refreshed none)
  | .landed n =>
      (tab.page.refreshing.land n).map fun flight =>
        { tab with page := { tab.page with refreshing := flight } }
  | .resume i deck =>
      (tab.page.resume i { cookie := JarCookie.sent tab.access tab.now }).map (tab.became deck)
  | .assign hash => (tab.gate.step (.assign hash)).map fun gate => { tab with gate := gate }
  | .click target deck =>
      (tab.gate.step (.click target deck)).map fun gate => { tab with gate := gate }
  | .hashchange deck =>
      (tab.gate.step (.hashchange deck)).map fun gate => { tab with gate := gate }

/-- The page as the login leaves it: the jar has the cookies of a session that was
served now. -/
def AuthService.signedIn (S : AuthService) (users : List User) (user : User) (now : Time)
    (jtis : Str × Str) (gate : Gate) : Tab :=
  let session := setSession S.jwt user S.settings now jtis
  { now := now
    users := users
    access := some (session.access.stored now now)
    refresh := some (session.refresh.stored now now)
    gate := gate }

/-! ## §2. What an editor is owed. -/

def AuthSettings.accessTtl (settings : AuthSettings) : Time :=
  seconds (settings.accessTokenMinutes * 60)

def AuthSettings.refreshTtl (settings : AuthSettings) : Time :=
  hours (settings.refreshTokenDays * 24)

/-- The token in the cookie has not expired. -/
def JarCookie.Lasts (ttl now : Time) (cookie : Option JarCookie) : Prop :=
  ∀ c ∈ cookie, now < seconds (wholeSeconds (c.served + ttl))

/-- The refreshes and the retries are sent and served while the tokens they carry
last, no refresh is lost, and the editor stays a user. -/
def AuthService.Timely (S : AuthService) (user : User) (tab : Tab) : TabAction → Prop
  | .deleteUser id => id ≠ user.id
  -- where the answer makes the page send a refresh
  | .deliver i _ => ∀ status ∈ (tab.page.wire i).bind (·.answer),
      ∀ page ∈ tab.page.respond i (.status status),
        page.refreshing.legs.length ≠ tab.page.refreshing.legs.length →
          JarCookie.Lasts S.settings.refreshTtl tab.now tab.refresh
  | .serveRefresh n _ => ∀ wire ∈ tab.refreshes[n]?,
      JarCookie.Lasts S.settings.refreshTtl tab.now wire.cookie
  | .loseRefresh _ => False
  | .resume _ _ => JarCookie.Lasts S.settings.accessTtl tab.now tab.access
  | .serve i _ => ∀ wire ∈ tab.page.retry i,
      JarCookie.Lasts S.settings.accessTtl tab.now wire.cookie
  | _ => True

instance (ttl now : Time) (cookie : Option JarCookie) :
    Decidable (JarCookie.Lasts ttl now cookie) := by
  unfold JarCookie.Lasts
  infer_instance

instance (S : AuthService) (user : User) (tab : Tab) (action : TabAction) :
    Decidable (S.Timely user tab action) := by
  cases action <;> unfold AuthService.Timely <;> infer_instance

/-- `jwt.decode` accepts what was signed with its secret, from its `iat` to its
`exp`. -/
def PyJwt.Complete (J : PyJwt) : Prop :=
  ∀ claims secret now, seconds claims.iat ≤ now → now < seconds claims.exp →
    J.decode (J.encode claims secret) secret now = .ok claims

/-- The cookie was set for this user. -/
structure AuthService.Minted (S : AuthService) (user : User) (kind : TokenKind) (ttl now : Time)
    (cookie : JarCookie) : Prop where
  value : ∃ jti, cookie.value = createToken S.jwt user.id kind ttl S.settings cookie.served jti
  served : cookie.served ≤ now
  expires : cookie.served + ttl ≤ cookie.expires

section Cookies

variable {S : AuthService} {user : User} {kind : TokenKind} {ttl now now' : Time}
  {cookie : JarCookie} {users : List User}

theorem wholeSeconds_le (t : Time) : seconds (wholeSeconds t) ≤ t := by
  unfold seconds wholeSeconds
  exact Int.ediv_mul_le t (by decide)

theorem Minted.later (h : S.Minted user kind ttl now cookie) (hnow : now ≤ now') :
    S.Minted user kind ttl now' cookie where
  value := h.value
  served := le_trans h.served hnow
  expires := h.expires

/-- A cookie whose token lasts is still in the jar. -/
theorem Minted.sent (h : S.Minted user kind ttl now cookie)
    (hlasts : JarCookie.Lasts ttl now (some cookie)) :
    JarCookie.sent (some cookie) now = some cookie := by
  have hend : now < cookie.expires :=
    lt_of_lt_of_le (hlasts cookie rfl) (le_trans (wholeSeconds_le _) h.expires)
  simp [JarCookie.sent, Option.filter, hend]

/-- **A cookie whose token lasts is accepted.** -/
theorem Minted.accepted (hJ : S.jwt.Complete)
    (hint : S.platform.int (toString user.id).toList = some (user.id : Int))
    (h : S.Minted user kind ttl now cookie) (hlasts : JarCookie.Lasts ttl now (some cookie))
    (huser : getUser users user.id = some user) :
    userOfCookie S.platform S.jwt S.settings users now kind (some cookie.value) = .ok user := by
  obtain ⟨jti, hvalue⟩ := h.value
  -- `iat` is the second the token was minted in, which is past
  have hiat : seconds (wholeSeconds cookie.served) ≤ now :=
    le_trans (wholeSeconds_le _) h.served
  have hdecode : decodeToken S.platform S.jwt cookie.value kind S.settings now
      = .ok (user.id : Int) := by
    unfold decodeToken
    rw [hvalue]
    unfold createToken
    rw [hJ _ _ now hiat (hlasts cookie rfl)]
    simp only [bind, Except.bind, ne_eq, not_true_eq_false, if_false]
    rw [hint]
    rfl
  simp only [userOfCookie, hdecode, huser]

theorem refresh_accepted (hJ : S.jwt.Complete)
    (hint : S.platform.int (toString user.id).toList = some (user.id : Int))
    (h : S.Minted user .refresh ttl now cookie) (hlasts : JarCookie.Lasts ttl now (some cookie))
    (huser : getUser users user.id = some user) (jtis : Str × Str) :
    Feedcast.refresh S.platform S.jwt S.settings users now (some cookie.value) jtis
      = .ok (user, setSession S.jwt user S.settings now jtis) := by
  unfold Feedcast.refresh
  rw [Minted.accepted hJ hint h hlasts huser]
  rfl

/-- What the response to a login or a refresh puts into the jar. -/
theorem minted_access (S : AuthService) (user : User) {served : Time} (jtis : Str × Str)
    (h : served ≤ now) : S.Minted user .access S.settings.accessTtl now
      ((setSession S.jwt user S.settings served jtis).access.stored now served) where
  value := ⟨jtis.1, rfl⟩
  served := h
  expires := Int.add_le_add_right h _

theorem minted_refresh (S : AuthService) (user : User) {served : Time} (jtis : Str × Str)
    (h : served ≤ now) : S.Minted user .refresh S.settings.refreshTtl now
      ((setSession S.jwt user S.settings served jtis).refresh.stored now served) where
  value := ⟨jtis.2, rfl⟩
  served := h
  expires := by
    show served + hours (S.settings.refreshTokenDays * 24)
      ≤ now + seconds (S.settings.refreshTokenDays * 24 * 3600)
    exact Int.add_le_add_right h _

end Cookies

/-! ## §3. The page of a tab. -/

section Page

variable {S : AuthService} {tab tab' : Tab} {action : TabAction}

theorem tabRefreshed_page (tab : Tab) (answer : Option (SessionCookies × Time))
    (flight : Flight Bool) :
    (tab.refreshed answer flight).page = { tab.page with refreshing := flight } := by
  cases answer <;> rfl

/-- A step of a tab is at most one step of its page. -/
theorem tab_page_step (h : S.tabStep tab action = some tab') :
    tab'.page = tab.page ∨ ∃ event, tab.page.step event = some tab'.page := by
  cases action with
  | pass time =>
      cases h
      exact Or.inl rfl
  | deleteUser id =>
      cases h
      exact Or.inl rfl
  | call path =>
      simp only [AuthService.tabStep] at h
      split at h
      · cases h
      · cases h
        exact Or.inr ⟨.call path _, rfl⟩
  | serve i status =>
      simp only [AuthService.tabStep] at h
      split at h
      · cases h
      · split at h
        · cases h
        · split at h
          · cases h
          · obtain ⟨page, hpage, rfl⟩ := Option.map_eq_some_iff.mp h
            exact Or.inr ⟨.progress i _, hpage⟩
  | deliver i deck =>
      simp only [AuthService.tabStep] at h
      split at h
      · cases h
      · obtain ⟨page, hpage, rfl⟩ := Option.map_eq_some_iff.mp h
        exact Or.inr ⟨.respond i _, hpage⟩
  | lose i deck =>
      obtain ⟨page, hpage, rfl⟩ := Option.map_eq_some_iff.mp h
      exact Or.inr ⟨.respond i .failed, hpage⟩
  -- the answer of the service is on its way: the page has seen nothing of it
  | serveRefresh n jtis =>
      simp only [AuthService.tabStep] at h
      split at h
      · cases h
      · split at h
        · cases h
        · cases h
          exact Or.inl rfl
  | deliverRefresh n =>
      simp only [AuthService.tabStep] at h
      split at h
      · cases h
      · next answer _ =>
          obtain ⟨flight, hflight, rfl⟩ := Option.map_eq_some_iff.mp h
          refine Or.inr ⟨.refreshed n answer.isSome, ?_⟩
          rw [tabRefreshed_page]
          simp only [ApiPage.step, hflight, Option.map_some]
  | loseRefresh n =>
      obtain ⟨flight, hflight, rfl⟩ := Option.map_eq_some_iff.mp h
      exact Or.inr ⟨.refreshed n false, by simp only [ApiPage.step, hflight]; rfl⟩
  | landed n =>
      obtain ⟨flight, hflight, rfl⟩ := Option.map_eq_some_iff.mp h
      exact Or.inr ⟨.landed n, by simp only [ApiPage.step, hflight]; rfl⟩
  | resume i deck =>
      obtain ⟨page, hpage, rfl⟩ := Option.map_eq_some_iff.mp h
      exact Or.inr ⟨.resume i _, hpage⟩
  -- navigation is the business of `main.js`
  | assign hash =>
      cases h
      exact Or.inl rfl
  | click target deck =>
      obtain ⟨gate, -, rfl⟩ := Option.map_eq_some_iff.mp h
      exact Or.inl rfl
  | hashchange deck =>
      obtain ⟨gate, -, rfl⟩ := Option.map_eq_some_iff.mp h
      exact Or.inl rfl

/-- **The page of a tab runs as a page does.** -/
theorem Tab.page_run {actions : List TabAction} (h : Run S.tabStep tab actions tab') :
    ∃ events, Run ApiPage.step tab.page events tab'.page := by
  induction h with
  | nil tab => exact ⟨[], Run.nil _⟩
  | cons hstep _ ih =>
      obtain ⟨events, hrest⟩ := ih
      rcases tab_page_step hstep with hsame | ⟨event, hevent⟩
      · exact ⟨events, hsame ▸ hrest⟩
      · exact ⟨event :: events, Run.cons hevent hrest⟩

end Page

/-! ## §4. What stays true. -/

/-- A call that is served in time: its retry carries a cookie of the editor and is
not refused, and it does not end with a 401. -/
def AuthService.CallWell (S : AuthService) (user : User) (now : Time) (call : ApiCall Wire) :
    Prop :=
  underAuth call.path = false ∧
    match call.stage with
    | .second _ wire =>
        (∃ cookie, wire.cookie = some cookie ∧
          S.Minted user .access S.settings.accessTtl now cookie) ∧ wire.answer ≠ some 401
    | .ended _ reply => reply ≠ .status 401
    | _ => True

/-- A refresh that is served in time: it carries a cookie of the editor, and is
answered with new ones. -/
structure AuthService.RefreshWell (S : AuthService) (user : User) (now : Time)
    (wire : RefreshWire) : Prop where
  cookie : ∃ cookie, wire.cookie = some cookie ∧
    S.Minted user .refresh S.settings.refreshTtl now cookie
  answer : ∀ answer, wire.answer = some answer → ∃ served jtis, served ≤ now ∧
    answer = some (setSession S.jwt user S.settings served jtis, served)

/-- The invariant of a tab whose editor is served in time. -/
structure AuthService.TabInv (S : AuthService) (user : User) (tab : Tab) : Prop where
  editor : getUser tab.users user.id = some user
  access : ∃ cookie, tab.access = some cookie ∧
    S.Minted user .access S.settings.accessTtl tab.now cookie
  refresh : ∃ cookie, tab.refresh = some cookie ∧
    S.Minted user .refresh S.settings.refreshTtl tab.now cookie
  refreshes : ∀ wire ∈ tab.refreshes, S.RefreshWell user tab.now wire
  /-- Every refresh that was answered was answered well. -/
  well : ∀ leg ∈ tab.page.refreshing.legs, leg ≠ .answered false ∧ leg ≠ .landed false
  calls : ∀ call ∈ tab.page.calls, S.CallWell user tab.now call
  told : tab.page.loggedOut = []
  gate : tab.gate.authed = some true ∧ GateHolds tab.gate

section Step

variable {S : AuthService} {user : User} {tab tab' : Tab} {now now' : Time}
  {call : ApiCall Wire} {wire : RefreshWire} {page : ApiPage Wire} {flight : Flight Bool}
  {i n : Nat} {deck : Bool}

theorem CallWell.later (h : S.CallWell user now call) (hnow : now ≤ now') :
    S.CallWell user now' call := by
  obtain ⟨hpath, hstage⟩ := h
  refine ⟨hpath, ?_⟩
  split at hstage
  · next n wire _ =>
      obtain ⟨⟨cookie, hcookie, hminted⟩, hanswer⟩ := hstage
      exact ⟨⟨cookie, hcookie, Minted.later hminted hnow⟩, hanswer⟩
  · exact hstage
  · trivial

theorem RefreshWell.later (h : S.RefreshWell user now wire) (hnow : now ≤ now') :
    S.RefreshWell user now' wire where
  cookie := by
    obtain ⟨cookie, hcookie, hminted⟩ := h.cookie
    exact ⟨cookie, hcookie, Minted.later hminted hnow⟩
  answer := by
    intro answer hanswer
    obtain ⟨served, jtis, hserved, hsession⟩ := h.answer answer hanswer
    exact ⟨served, jtis, le_trans hserved hnow, hsession⟩

theorem tabInv_pass (h : S.TabInv user tab) (time : Nat) :
    S.TabInv user { tab with now := tab.now + time } := by
  have hnow : tab.now ≤ tab.now + time := le_add_of_nonneg_right (Int.natCast_nonneg time)
  obtain ⟨access, haccess, hminted⟩ := h.access
  obtain ⟨refresh, hrefresh, hminted'⟩ := h.refresh
  exact { h with
    access := ⟨access, haccess, Minted.later hminted hnow⟩
    refresh := ⟨refresh, hrefresh, Minted.later hminted' hnow⟩
    refreshes := fun wire hwire => RefreshWell.later (h.refreshes wire hwire) hnow
    calls := fun call hcall => CallWell.later (h.calls call hcall) hnow }

theorem getUser_filter {users : List User} {id : Nat} (h : getUser users user.id = some user)
    (hne : id ≠ user.id) :
    getUser (users.filter fun other => other.id ≠ id) user.id = some user := by
  unfold getUser at h ⊢
  rw [List.find?_filter, ← h]
  congr 1
  funext other
  by_cases hid : (other.id : Int) = user.id
  · have hother : other.id ≠ id := by omega
    simp [hid, hother]
  · simp [hid]

/-- The page goes on while nothing is wrong with its calls, and the refresh it may
have sent carries a cookie that lasts. -/
theorem tabInv_became (h : S.TabInv user tab) (htold : page.loggedOut = [])
    (hcalls : ∀ call ∈ page.calls, S.CallWell user tab.now call)
    (hlegs : page.refreshing.legs = tab.page.refreshing.legs ∨
      (page.refreshing.legs = tab.page.refreshing.legs ++ [.sent] ∧
        JarCookie.Lasts S.settings.refreshTtl tab.now tab.refresh)) :
    S.TabInv user (tab.became deck page) := by
  -- no `logged-out` was dispatched, so `main.js` was not called
  have hgate : (tab.became deck page).gate = tab.gate := by
    show (if page.loggedOut = tab.page.loggedOut then tab.gate else _) = tab.gate
    rw [htold, h.told, if_pos rfl]
  refine ⟨h.editor, h.access, h.refresh, ?_, ?_, hcalls, htold, ?_⟩
  · intro wire hwire
    unfold Tab.became at hwire
    rcases hlegs with hsame | ⟨hmore, hlasts⟩
    · rw [hsame] at hwire
      exact h.refreshes wire (by simpa using hwire)
    · have hlength : page.refreshing.legs.length ≠ tab.page.refreshing.legs.length := by
        rw [hmore]
        simp
      rw [if_neg hlength] at hwire
      rcases List.mem_append.mp hwire with hold | hnew
      · exact h.refreshes wire hold
      · -- the refresh that has just been sent
        rw [List.mem_singleton.mp hnew]
        obtain ⟨cookie, hcookie, hminted⟩ := h.refresh
        rw [hcookie] at hlasts ⊢
        refine ⟨⟨cookie, Minted.sent hminted hlasts, hminted⟩, ?_⟩
        intro answer hanswer
        cases hanswer
  · intro leg hleg
    rcases hlegs with hsame | ⟨hmore, -⟩
    · exact h.well leg (by rwa [← hsame])
    · change leg ∈ page.refreshing.legs at hleg
      rw [hmore] at hleg
      rcases List.mem_append.mp hleg with hold | hnew
      · exact h.well leg hold
      · rw [List.mem_singleton.mp hnew]
        simp
  · rw [hgate]
    exact h.gate

/-- A call that goes on well, among calls that are well. -/
theorem calls_well {calls : List (ApiCall Wire)} {call' : ApiCall Wire}
    (h : ∀ call ∈ calls, S.CallWell user now call) (hcall : S.CallWell user now call') :
    ∀ call ∈ calls.set i call', S.CallWell user now call := by
  intro call hmem
  rcases List.mem_or_eq_of_mem_set hmem with hold | hnew
  · exact h call hold
  · rw [hnew]
    exact hcall

theorem tabInv_respond {reply : FetchReply} (h : S.TabInv user tab)
    (hpage : tab.page.respond i reply = some page)
    (hlasts : page.refreshing.legs.length ≠ tab.page.refreshing.legs.length →
      JarCookie.Lasts S.settings.refreshTtl tab.now tab.refresh)
    (hretry : ∀ call n wire, tab.page.calls[i]? = some call → call.stage = .second n wire →
      reply ≠ .status 401) : S.TabInv user (tab.became deck page) := by
  obtain ⟨call, hget, hcases⟩ := respond_cases hpage
  have hwell := h.calls call (List.mem_of_getElem? hget)
  rcases hcases with ⟨sent, hstage, hreply, hauth, rfl⟩ | ⟨sent, hstage, hreply, rfl⟩ |
    ⟨n, sent, hstage, rfl⟩
  · refine tabInv_became h h.told (calls_well h.calls ⟨hauth, trivial⟩) ?_
    show (tab.page.refreshing.join.1).legs = _ ∨ _
    cases hcurrent : tab.page.refreshing.current with
    | some n =>
        rw [Flight.join_current hcurrent]
        exact Or.inl rfl
    | none =>
        have hlegs : (tab.page.refreshing.join.1).legs = tab.page.refreshing.legs ++ [.sent] := by
          rw [Flight.join_idle hcurrent]
        refine Or.inr ⟨hlegs, hlasts ?_⟩
        show (tab.page.refreshing.join.1).legs.length ≠ _
        rw [hlegs]
        simp
  · refine tabInv_became h h.told (calls_well h.calls ⟨hwell.1, ?_⟩) (Or.inl rfl)
    -- a 401 would have been an answer of `/auth/`
    intro h401
    have hauth := hreply h401
    rw [hwell.1] at hauth
    cases hauth
  · have hne : reply ≠ .status 401 := hretry call n sent hget hstage
    refine tabInv_became h ?_ (calls_well h.calls ⟨hwell.1, hne⟩) (Or.inl rfl)
    show (if reply = .status 401 then _ else tab.page.loggedOut) = []
    rw [if_neg hne]
    exact h.told

theorem tabInv_resume (h : S.TabInv user tab)
    (hpage : tab.page.resume i { cookie := JarCookie.sent tab.access tab.now } = some page)
    (hlasts : JarCookie.Lasts S.settings.accessTtl tab.now tab.access) :
    S.TabInv user (tab.became deck page) := by
  obtain ⟨call, n, hget, hstage, hcases⟩ := resume_cases hpage
  have hwell := h.calls call (List.mem_of_getElem? hget)
  -- the retry goes out after a refresh that went well, with the cookie it set
  rcases hcases with ⟨-, rfl⟩ | ⟨hbad, -⟩
  · refine tabInv_became h h.told (calls_well h.calls ⟨hwell.1, ?_⟩) (Or.inl rfl)
    obtain ⟨cookie, hcookie, hminted⟩ := h.access
    rw [hcookie] at hlasts ⊢
    refine ⟨⟨cookie, Minted.sent hminted hlasts, hminted⟩, ?_⟩
    intro hanswer
    cases hanswer
  · -- no refresh was answered badly
    have hleg := List.mem_of_getElem? (Flight.outcome_eq_some.mp hbad)
    exact absurd rfl (h.well _ hleg).2

theorem tabInv_flight (h : S.TabInv user tab)
    (hwell : ∀ leg ∈ flight.legs, leg ≠ .answered false ∧ leg ≠ .landed false) :
    S.TabInv user { tab with page := { tab.page with refreshing := flight } } :=
  { h with well := hwell, refreshes := h.refreshes, calls := h.calls, told := h.told }

theorem answered_well {ok : Bool} (h : S.TabInv user tab)
    (hflight : tab.page.refreshing.answer n ok = some flight) (hok : ok = true) :
    ∀ leg ∈ flight.legs, leg ≠ .answered false ∧ leg ≠ .landed false := by
  obtain ⟨-, rfl⟩ := Flight.answer_some hflight
  intro leg hleg
  rcases List.mem_or_eq_of_mem_set hleg with hold | hnew
  · exact h.well leg hold
  · rw [hnew, hok]
    simp

theorem landed_well (h : S.TabInv user tab) (hflight : tab.page.refreshing.land n = some flight) :
    ∀ leg ∈ flight.legs, leg ≠ .answered false ∧ leg ≠ .landed false := by
  obtain ⟨result, hanswered, rfl⟩ := Flight.land_some hflight
  have hresult := (h.well _ (List.mem_of_getElem? hanswered)).1
  intro leg hleg
  rcases List.mem_or_eq_of_mem_set hleg with hold | hnew
  · exact h.well leg hold
  · rw [hnew]
    cases result with
    | true => simp
    | false => exact absurd rfl hresult

/-- The response to a refresh brings the editor new cookies. -/
theorem tabInv_deliverRefresh (h : S.TabInv user tab)
    {answer : Option (SessionCookies × Time)} (hmem : wire ∈ tab.refreshes)
    (hanswer : wire.answer = some answer)
    (hflight : tab.page.refreshing.answer n answer.isSome = some flight) :
    S.TabInv user (tab.refreshed answer flight) := by
  obtain ⟨served, jtis, hserved, rfl⟩ := (h.refreshes wire hmem).answer answer hanswer
  have hinv := tabInv_flight h (answered_well h hflight rfl)
  exact { hinv with
    access := ⟨_, rfl, minted_access S user jtis hserved⟩
    refresh := ⟨_, rfl, minted_refresh S user jtis hserved⟩ }

/-- A retry whose cookie lasts is not refused. -/
theorem status_ne (hJ : S.jwt.Complete)
    (hint : S.platform.int (toString user.id).toList = some (user.id : Int))
    (h : S.TabInv user tab) {sent : Wire} {cookie : JarCookie} (hcookie : sent.cookie = some cookie)
    (hminted : S.Minted user .access S.settings.accessTtl tab.now cookie)
    (hlasts : JarCookie.Lasts S.settings.accessTtl tab.now sent.cookie) {status : Nat}
    (hstatus : status ≠ 401) : S.status tab sent status ≠ 401 := by
  rw [hcookie] at hlasts
  have haccepted := Minted.accepted hJ hint hminted hlasts h.editor
  unfold AuthService.status currentUser
  rw [hcookie, Option.map_some, haccepted]
  exact hstatus

theorem tabInv_serve (hJ : S.jwt.Complete)
    (hint : S.platform.int (toString user.id).toList = some (user.id : Int))
    (h : S.TabInv user tab) {status : Nat} (hstatus : status ≠ 401)
    (hpage : (tab.page.progress i fun wire =>
      { wire with answer := some (S.status tab wire status) }) = some page)
    (htimely : S.Timely user tab (.serve i status)) :
    S.TabInv user { tab with page := page } := by
  obtain ⟨call, hget, hcases⟩ := progress_cases hpage
  have hwell := h.calls call (List.mem_of_getElem? hget)
  have hset : ∀ stage, S.CallWell user tab.now { call with stage := stage } →
      S.TabInv user { tab with page := tab.page.goOn i call stage } := by
    intro stage hstage
    exact { h with calls := calls_well h.calls hstage }
  -- only the answer to a retry can end a call with a 401
  rcases hcases with ⟨sent, hstage, rfl⟩ | ⟨n, sent, hstage, rfl⟩
  · exact hset _ ⟨hwell.1, trivial⟩
  · obtain ⟨hauth, hsecond⟩ := hwell
    rw [hstage] at hsecond
    obtain ⟨⟨cookie, hcookie, hminted⟩, -⟩ := hsecond
    have hsent : tab.page.retry i = some sent := by
      unfold ApiPage.retry
      rw [hget, Option.map_some, hstage]
    have hlasts := htimely sent hsent
    refine hset _ ⟨hauth, ⟨cookie, hcookie, hminted⟩, ?_⟩
    intro hanswer
    exact status_ne hJ hint h hcookie hminted hlasts hstatus (Option.some.inj hanswer)

theorem tabInv_serveRefresh (hJ : S.jwt.Complete)
    (hint : S.platform.int (toString user.id).toList = some (user.id : Int))
    (h : S.TabInv user tab) (hget : tab.refreshes[n]? = some wire) (jtis : Str × Str)
    (hlasts : JarCookie.Lasts S.settings.refreshTtl tab.now wire.cookie) :
    S.TabInv user { tab with
      refreshes := tab.refreshes.set n
        { wire with answer := some (S.refreshAnswer tab wire jtis) } } := by
  have hwell := h.refreshes wire (List.mem_of_getElem? hget)
  obtain ⟨cookie, hcookie, hminted⟩ := hwell.cookie
  rw [hcookie] at hlasts
  have hanswered : S.refreshAnswer tab wire jtis
      = some (setSession S.jwt user S.settings tab.now jtis, tab.now) := by
    unfold AuthService.refreshAnswer
    rw [hcookie, Option.map_some, refresh_accepted hJ hint hminted hlasts h.editor]
  refine { h with refreshes := ?_ }
  intro wire' hwire'
  -- the pair of an accepted refresh is minted at the time of its answer
  rcases List.mem_or_eq_of_mem_set hwire' with hold | hnew
  · exact h.refreshes wire' hold
  · rw [hnew]
    refine ⟨⟨cookie, hcookie, hminted⟩, ?_⟩
    intro answer hanswer
    cases hanswer
    exact ⟨tab.now, jtis, le_refl _, hanswered⟩

/-- Navigation leaves the session as it is. -/
theorem tabInv_gate (h : S.TabInv user tab) {event : GateEvent} {gate : Gate}
    (hgate : tab.gate.step event = some gate) (hauthed : gate.authed = tab.gate.authed) :
    S.TabInv user { tab with gate := gate } :=
  { h with gate := ⟨hauthed.trans h.gate.1, holds_step h.gate.2 hgate⟩ }

theorem assign_authed (gate : Gate) (hash : Str) : (gate.assign hash).authed = gate.authed := by
  unfold Gate.assign
  split <;> rfl

theorem tabInv_navigate (h : S.TabInv user tab) {event : GateEvent} {gate : Gate}
    (hgate : tab.gate.step event = some gate)
    (hevent : (∃ hash, event = .assign hash) ∨ (∃ target deck, event = .click target deck) ∨
      ∃ deck, event = .hashchange deck) : S.TabInv user { tab with gate := gate } := by
  refine tabInv_gate h hgate ?_
  -- none of the three touches `authed`
  rcases hevent with ⟨hash, rfl⟩ | ⟨target, deck, rfl⟩ | ⟨deck, rfl⟩
  · cases hgate
    exact assign_authed tab.gate hash
  · simp only [Gate.step] at hgate
    split at hgate
    · cases hgate
      unfold Gate.click
      split
      · exact fromHash_authed tab.gate deck
      · exact assign_authed tab.gate target.name
    · cases hgate
  · simp only [Gate.step] at hgate
    split at hgate
    · cases hgate
    · cases hgate
      exact fromHash_authed _ deck

theorem tabInv_step (hJ : S.jwt.Complete)
    (hint : S.platform.int (toString user.id).toList = some (user.id : Int))
    {action : TabAction} (h : S.TabInv user tab) (htimely : S.Timely user tab action)
    (hstep : S.tabStep tab action = some tab') : S.TabInv user tab' := by
  cases action with
  | pass time =>
      cases hstep
      exact tabInv_pass h time
  | deleteUser id =>
      cases hstep
      exact { h with editor := getUser_filter h.editor htimely }
  | call path =>
      simp only [AuthService.tabStep] at hstep
      split at hstep
      · cases hstep
      · next hpath =>
          cases hstep
          refine { h with calls := ?_ }
          intro call hcall
          rcases List.mem_append.mp hcall with hold | hnew
          · exact h.calls call hold
          · rw [List.mem_singleton.mp hnew]
            have hauth : underAuth path = false := by
              by_contra hunder
              simp [hunder] at hpath
            exact ⟨hauth, trivial⟩
  | serve i status =>
      simp only [AuthService.tabStep] at hstep
      split at hstep
      · cases hstep
      · next hstatus =>
          split at hstep
          · cases hstep
          · split at hstep
            · cases hstep
            · obtain ⟨page, hpage, rfl⟩ := Option.map_eq_some_iff.mp hstep
              exact tabInv_serve hJ hint h hstatus hpage htimely
  | deliver i deck =>
      simp only [AuthService.tabStep] at hstep
      split at hstep
      · cases hstep
      · next status hanswer =>
          obtain ⟨page, hpage, rfl⟩ := Option.map_eq_some_iff.mp hstep
          refine tabInv_respond h hpage (htimely status hanswer page hpage) ?_
          intro call n wire hget hstage hreply
          -- the answer of a retry is the one it was served with
          have hwell := (h.calls call (List.mem_of_getElem? hget)).2
          rw [hstage] at hwell
          have hwire : tab.page.wire i = some wire := by
            unfold ApiPage.wire
            rw [hget, Option.map_some, hstage]
          rw [hwire, Option.bind_some] at hanswer
          cases hreply
          exact hwell.2 hanswer
  | lose i deck =>
      obtain ⟨page, hpage, rfl⟩ := Option.map_eq_some_iff.mp hstep
      refine tabInv_respond h hpage ?_ ?_
      · -- a request that is lost asks for no refresh
        intro hlength
        obtain ⟨call, -, hcases⟩ := respond_cases hpage
        rcases hcases with ⟨_, -, hreply, -⟩ | ⟨_, -, -, rfl⟩ | ⟨_, _, -, rfl⟩
        · cases hreply
        · exact absurd rfl hlength
        · exact absurd rfl hlength
      · intro _ _ _ _ _ hreply
        cases hreply
  | serveRefresh n jtis =>
      simp only [AuthService.tabStep] at hstep
      split at hstep
      · cases hstep
      · next wire hget =>
          split at hstep
          · cases hstep
          · cases hstep
            exact tabInv_serveRefresh hJ hint h hget jtis (htimely wire hget)
  | deliverRefresh n =>
      simp only [AuthService.tabStep] at hstep
      split at hstep
      · cases hstep
      · next answer hanswer =>
          obtain ⟨wire, hget, hwire⟩ := Option.bind_eq_some_iff.mp hanswer
          obtain ⟨flight, hflight, rfl⟩ := Option.map_eq_some_iff.mp hstep
          exact tabInv_deliverRefresh h (List.mem_of_getElem? hget) hwire hflight
  | loseRefresh n => cases htimely
  | landed n =>
      obtain ⟨flight, hflight, rfl⟩ := Option.map_eq_some_iff.mp hstep
      exact tabInv_flight h (landed_well h hflight)
  | resume i deck =>
      obtain ⟨page, hpage, rfl⟩ := Option.map_eq_some_iff.mp hstep
      exact tabInv_resume h hpage htimely
  | assign hash =>
      have hassign : tab.gate.step (.assign hash) = some (tab.gate.assign hash) := rfl
      cases hstep
      exact tabInv_navigate h hassign (Or.inl ⟨hash, rfl⟩)
  | click target deck =>
      obtain ⟨gate, hgate, rfl⟩ := Option.map_eq_some_iff.mp hstep
      exact tabInv_navigate h hgate (Or.inr (Or.inl ⟨target, deck, rfl⟩))
  | hashchange deck =>
      obtain ⟨gate, hgate, rfl⟩ := Option.map_eq_some_iff.mp hstep
      exact tabInv_navigate h hgate (Or.inr (Or.inr ⟨deck, rfl⟩))

end Step

/-! ## §5. Every run. -/

theorem tabInv_signedIn (S : AuthService) {users : List User} {user : User} {gate : Gate}
    (huser : getUser users user.id = some user) (hauthed : gate.authed = some true)
    (hgate : GateHolds gate) (now : Time) (jtis : Str × Str) :
    S.TabInv user (S.signedIn users user now jtis gate) where
  editor := huser
  access := ⟨_, rfl, minted_access S user jtis (le_refl _)⟩
  refresh := ⟨_, rfl, minted_refresh S user jtis (le_refl _)⟩
  -- nothing is on its way yet
  refreshes := by
    intro wire hwire
    cases hwire
  well := by
    intro leg hleg
    cases hleg
  calls := by
    intro call hcall
    cases hcall
  told := rfl
  gate := ⟨hauthed, hgate⟩

/-- What the editor sees of a session that is kept up: no call ended with a 401, no
event was dispatched, and the page is not at `#login`; and its requests shared
their refreshes. -/
structure SignedIn (tab : Tab) : Prop where
  answered : ∀ call ∈ tab.page.calls, ∀ refresh, call.stage ≠ .ended refresh (.status 401)
  told : tab.page.loggedOut = []
  view : tab.gate.authed = some true ∧ tab.gate.view ≠ some loginName
  shared : RefreshShared tab.page

theorem plainFields_field (field rest taken : Str) :
    plainFields (plainField field ++ rest) taken
      = (taken.reverse ++ field) :: plainFields rest [] := by
  induction field generalizing taken with
  | nil => simp [plainField, plainFields]
  | cons ch field ih =>
      have hsplit : plainField (ch :: field) ++ rest = '_' :: ch :: (plainField field ++ rest) := by
        simp [plainField]
      rw [hsplit, plainFields, ih]
      simp

theorem plainFields_fields (fields : List Str) :
    plainFields (fields.flatMap plainField) [] = fields := by
  induction fields with
  | nil => rfl
  | cons field fields ih =>
      rw [List.flatMap_cons, plainFields_field, ih]
      rfl

/-- The plain service accepts what it signs. -/
theorem plainJwt_complete : plainJwt.Complete := by
  intro claims secret now _ hexp
  have hfields : plainFields (plainEncode claims secret) [] =
      [claims.sub, claims.type, plainInt claims.iat, plainInt claims.exp,
        (claims.jti.map ('+' :: ·)).getD [], secret] := plainFields_fields _
  have hjti : ((claims.jti.map ('+' :: ·)).getD []).tail? = claims.jti := by
    cases claims.jti <;> rfl
  have hnot : ¬ seconds claims.exp ≤ now := not_le.mpr hexp
  simp only [plainJwt, hfields, readInt_plainInt, hjti]
  rw [if_neg (not_not_intro rfl), if_neg hnot]

/-- The editor of the plain service. -/
def plainEditor : User where
  id := 1
  email := "e@x".toList
  passwordHash := "pw".toList

/-- The gallery, with a session. -/
def plainGate : Gate := (Gate.opened "gallery".toList).onLoggedIn false

def plainTab : Tab := plainService.signedIn [plainEditor] plainEditor 0 ([], []) plainGate

/-- After a quarter of an hour two requests find the access token over; one refresh
serves both. -/
def silentRefresh : List TabAction :=
  [.pass 960000000, .call "/stories".toList, .call "/cities".toList, .serve 0 200, .serve 1 200,
    .deliver 0 false, .deliver 1 false, .serveRefresh 0 ([], []), .deliverRefresh 0, .landed 0,
    .resume 0 false, .resume 1 false, .serve 1 200, .serve 0 200, .deliver 1 false,
    .deliver 0 false]

end Feedcast
