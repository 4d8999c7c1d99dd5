/-
  Feedcast.Session.Gate — nothing renders without a session.

  The answer of `/auth/me`, navigation, expired requests, logins and logouts come
  in any order.

    • `GateHolds` — what is on screen, and what the address bar says, in every
      state of a page,
    • `Gate.fromHash_spec` — one draw, of what the session allows,
    • `gate_holds` — over every run, with a bound on the login forms drawn,
    • `relogin_returns` — a login after an expiry brings back what was there.
-/
import Feedcast.Lib.Runs
import Feedcast.Static.Main

namespace Feedcast

open Feedcast.Lib

/-! ## §1. What the gate promises. -/

structure GateHolds (gate : Gate) : Prop where
  /-- Before `/auth/me` answers, nothing is drawn and nothing mounted. -/
  waiting : gate.authed = none → gate.drawn = [] ∧ gate.mounts = 0 ∧ gate.view = none
  /-- The chrome is that of a session. -/
  chrome : gate.chrome = true ↔ gate.authed = some true
  /-- Without a session the page is at `#login`, and with one it never is. -/
  login : gate.view = some loginName ↔ gate.authed = some false
  /-- The login form is in `root`. -/
  form : gate.authed = some false → gate.drawn.getLast? = some .login
  /-- So is the view of the route the page is at. -/
  route : gate.authed = some true → ∀ route : Route, gate.view = some route.name →
    gate.drawn.getLast? = some (.route route)
  /-- The picker is mounted once, with the first session. -/
  picker : gate.mounts = if gate.pickerMounted then 1 else 0
  session : gate.authed = some true → gate.pickerMounted = true
  mounted : ∀ route, Drawn.route route ∈ gate.drawn → gate.pickerMounted = true
  /-- The address bar says where the page is, unless an event is queued. -/
  address : gate.authed ≠ none → gate.pending = 0 → gate.view = some gate.hash
  /-- There is somewhere to go after the next login. -/
  target : inRoutes gate.returnTo = true

/-! ## §2. Routes. -/

theorem routeOf_name (route : Route) : routeOf route.name = some route := by
  cases route <;> decide

theorem inRoutes_name (route : Route) : inRoutes route.name = true := by
  cases route <;> decide

theorem inRoutes_login : inRoutes loginName = false := by decide

theorem inRoutes_ne_login {name : Str} (h : inRoutes name = true) : name ≠ loginName := by
  intro heq
  rw [heq, inRoutes_login] at h
  cases h

theorem inRoutes_resolve (name : Str) (deck : Bool) : inRoutes (resolveRoute name deck) = true := by
  unfold resolveRoute
  by_cases hin : inRoutes name = false
  · rw [if_pos hin]
    exact inRoutes_name .discover
  · rw [if_neg hin]
    by_cases hstudio : name = Route.name .studio ∧ deck = false
    · rw [if_pos hstudio]
      exact inRoutes_name .discover
    · rw [if_neg hstudio]
      simpa using hin

/-! ## §3. One draw. -/

section Draw

variable {gate gate' : Gate} {deck : Bool} {name : Str} {event : GateEvent}

@[simp] theorem render_authed (gate : Gate) (name : Str) :
    (gate.render name).authed = gate.authed := by
  unfold Gate.render
  cases routeOf name <;> rfl

@[simp] theorem render_view (gate : Gate) (name : Str) : (gate.render name).view = some name := by
  unfold Gate.render
  cases routeOf name <;> rfl

@[simp] theorem render_hash (gate : Gate) (name : Str) :
    (gate.render name).hash = gate.hash := by
  unfold Gate.render
  cases routeOf name <;> rfl

@[simp] theorem render_chrome (gate : Gate) (name : Str) :
    (gate.render name).chrome = gate.chrome := by
  unfold Gate.render
  cases routeOf name <;> rfl

@[simp] theorem render_returnTo (gate : Gate) (name : Str) :
    (gate.render name).returnTo = gate.returnTo := by
  unfold Gate.render
  cases routeOf name <;> rfl

@[simp] theorem render_mounts (gate : Gate) (name : Str) :
    (gate.render name).mounts = gate.mounts := by
  unfold Gate.render
  cases routeOf name <;> rfl

@[simp] theorem render_pickerMounted (gate : Gate) (name : Str) :
    (gate.render name).pickerMounted = gate.pickerMounted := by
  unfold Gate.render
  cases routeOf name <;> rfl

theorem render_drawn (gate : Gate) (name : Str) :
    (gate.render name).drawn = gate.drawn ++ ((routeOf name).map Drawn.route).toList := by
  unfold Gate.render
  cases routeOf name with
  | none => exact (List.append_nil _).symm
  | some route => rfl

theorem fromHash_out (h : gate.authed = some false) : gate.fromHash deck = Gate.showLogin
    { gate with
      returnTo := if inRoutes gate.hash then gate.hash else gate.returnTo
      hash := loginName } := by
  unfold Gate.fromHash
  rw [h]

theorem fromHash_in (h : gate.authed = some true) : gate.fromHash deck
    = Gate.render { gate with hash := resolveRoute gate.hash deck }
        (resolveRoute gate.hash deck) := by
  unfold Gate.fromHash
  rw [h]

/-- What has to hold before a draw, for the gate to hold after it. -/
structure Gate.Ready (gate : Gate) : Prop where
  authed : gate.authed ≠ none
  chrome : gate.authed = some true → gate.chrome = true
  picker : gate.mounts = if gate.pickerMounted then 1 else 0
  session : gate.authed = some true → gate.pickerMounted = true
  mounted : ∀ route, Drawn.route route ∈ gate.drawn → gate.pickerMounted = true
  target : inRoutes gate.returnTo = true

theorem holds_login (h : gate.Ready) (hauthed : gate.authed = some false) :
    GateHolds (gate.fromHash deck) := by
  rw [fromHash_out hauthed]
  have hsome : gate.authed ≠ some true := by simp [hauthed]
  refine ⟨?_, ?_, ?_, ?_, ?_, h.picker, ?_, ?_, ?_, ?_⟩
  · intro hnone
    exact absurd hnone h.authed
  · exact iff_of_false Bool.false_ne_true hsome
  · exact iff_of_true rfl hauthed
  · intro _
    exact List.getLast?_concat
  · intro htrue
    exact absurd htrue hsome
  · intro htrue
    exact absurd htrue hsome
  · intro route hmem
    rcases List.mem_append.mp hmem with hold | hnew
    · exact h.mounted route hold
    · cases List.mem_singleton.mp hnew
  · intro _ _
    rfl
  -- an unknown hash keeps the place that was remembered
  · show inRoutes (if inRoutes gate.hash = true then gate.hash else gate.returnTo) = true
    by_cases hin : inRoutes gate.hash = true
    · rw [if_pos hin]
      exact hin
    · rw [if_neg hin]
      exact h.target

theorem holds_route (h : gate.Ready) (hauthed : gate.authed = some true) :
    GateHolds (gate.fromHash deck) := by
  rw [fromHash_in hauthed]
  have hpicker := h.session hauthed
  -- `resolveRoute` never answers with login
  have hne := inRoutes_ne_login (inRoutes_resolve gate.hash deck)
  refine ⟨?_, ?_, ?_, ?_, ?_, ?_, ?_, ?_, ?_, ?_⟩
  · intro hnone
    simp [hauthed] at hnone
  · simp [h.chrome hauthed, hauthed]
  · simp [hne, hauthed]
  · intro hfalse
    simp [hauthed] at hfalse
  · intro _ route hview
    rw [render_view] at hview
    rw [render_drawn, Option.some.inj hview, routeOf_name]
    exact List.getLast?_concat
  · simpa using h.picker
  · intro _
    simpa using hpicker
  · intro route _
    simpa using hpicker
  · intro _ _
    simp
  · simpa using h.target

/-- **One draw, of what the session allows**, and the address bar follows it. -/
theorem Gate.Ready.draw (h : gate.Ready) (deck : Bool) : GateHolds (gate.fromHash deck) := by
  cases hauthed : gate.authed with
  | none => exact absurd hauthed h.authed
  | some authed =>
      cases authed with
      | false => exact holds_login h hauthed
      | true => exact holds_route h hauthed

/-- A gate that holds is ready for its next draw. -/
theorem GateHolds.ready (h : GateHolds gate) (hauthed : gate.authed ≠ none) : gate.Ready where
  authed := hauthed
  chrome := h.chrome.mpr
  picker := h.picker
  session := h.session
  mounted := h.mounted
  target := h.target

/-! ## §4. One event. -/

theorem holds_opened (hash : Str) : GateHolds (Gate.opened hash) := by
  refine ⟨fun _ => ⟨rfl, rfl, rfl⟩, ?_, ?_, ?_, ?_, rfl, ?_, ?_, ?_, ?_⟩
  · exact iff_of_false Bool.false_ne_true (by simp [Gate.opened])
  · exact iff_of_false (by simp [Gate.opened]) (by simp [Gate.opened])
  · intro h
    cases h
  · intro h
    cases h
  · intro h
    cases h
  · intro route h
    cases h
  · intro h
    exact absurd rfl h
  -- what was asked for before the session is known is where the login leads
  · show inRoutes (if inRoutes hash = true then hash else Route.name .discover) = true
    by_cases hin : inRoutes hash = true
    · rw [if_pos hin]
      exact hin
    · rw [if_neg hin]
      exact inRoutes_name .discover

/-- A login, up to its draw. -/
theorem onLoggedIn_eq (gate : Gate) (deck : Bool) :
    gate.onLoggedIn deck = Gate.fromHash
      { gate with
        authed := some true
        chrome := true
        pickerMounted := true
        mounts := if gate.pickerMounted then gate.mounts else gate.mounts + 1
        hash := gate.returnTo } deck := by
  unfold Gate.onLoggedIn
  by_cases hpicker : gate.pickerMounted <;> simp [Gate.setChrome, hpicker]

theorem holds_loggedIn (h : GateHolds gate) (deck : Bool) : GateHolds (gate.onLoggedIn deck) := by
  rw [onLoggedIn_eq]
  apply Gate.Ready.draw
  refine ⟨Option.some_ne_none true, fun _ => rfl, ?_, fun _ => rfl, fun _ _ => rfl, h.target⟩
  have hmounts := h.picker
  by_cases hpicker : gate.pickerMounted
  · simpa [hpicker] using hmounts
  · simpa [hpicker] using hmounts

/-- The session is over, and the form is drawn. -/
theorem holds_refused (h : GateHolds gate) (deck : Bool) : GateHolds (gate.refused deck) := by
  have hready : Gate.Ready { gate with authed := some false } := by
    refine ⟨Option.some_ne_none false, ?_, h.picker, ?_, h.mounted, h.target⟩
    · intro htrue
      cases htrue
    · intro htrue
      cases htrue
  exact hready.draw deck

theorem holds_hashchange (h : GateHolds gate) (pending : Nat) (deck : Bool) :
    GateHolds (Gate.fromHash { gate with pending := pending } deck) := by
  by_cases hauthed : gate.authed = none
  · -- the event finds nothing to draw yet
    have hidle : Gate.fromHash { gate with pending := pending } deck
        = { gate with pending := pending } := by
      unfold Gate.fromHash
      simp [hauthed]
    rw [hidle]
    exact { h with address := fun hne _ => absurd hauthed hne }
  · have hready := h.ready hauthed
    have hready' : Gate.Ready { gate with pending := pending } := { hready with }
    exact hready'.draw deck

theorem holds_assign (h : GateHolds gate) (hash : Str) : GateHolds (gate.assign hash) := by
  unfold Gate.assign
  by_cases hsame : gate.hash = hash
  · rw [if_pos hsame]
    exact h
  · rw [if_neg hsame]
    exact { h with address := fun _ hpending => absurd hpending (Nat.succ_ne_zero _) }

theorem holds_step (h : GateHolds gate) (hstep : gate.step event = some gate') :
    GateHolds gate' := by
  cases event with
  | me ok deck =>
      simp only [Gate.step] at hstep
      split at hstep
      · cases hstep
        cases ok with
        | true => exact holds_loggedIn h deck
        | false => exact holds_refused h deck
      · cases hstep
  | assign hash =>
      cases hstep
      exact holds_assign h hash
  | click tab deck =>
      simp only [Gate.step] at hstep
      split at hstep
      · next hchrome =>
          cases hstep
          unfold Gate.click
          split
          -- a click on the tab one is at draws at once, any other waits for its `hashchange`
          · refine (h.ready ?_).draw deck
            rw [h.chrome.mp hchrome]
            exact Option.some_ne_none true
          · exact holds_assign h tab.name
      · cases hstep
  | hashchange deck =>
      simp only [Gate.step] at hstep
      split at hstep
      · cases hstep
      · next pending _ =>
          cases hstep
          exact holds_hashchange h pending deck
  | loggedIn deck =>
      simp only [Gate.step] at hstep
      split at hstep
      · cases hstep
        exact holds_loggedIn h deck
      · cases hstep
  | loggedOut deck =>
      simp only [Gate.step] at hstep
      split at hstep
      · cases hstep
      · cases hstep
        unfold Gate.loggedOut
        split
        -- a second expired request finds the form already there
        · exact h
        · exact holds_refused h deck
  | logout =>
      simp only [Gate.step] at hstep
      split at hstep
      · cases hstep
        -- `location.reload()` after `hash = "login"`
        exact holds_opened loginName
      · cases hstep

/-! ## §5. How often the form is drawn. -/

def Gate.forms (gate : Gate) : Nat := gate.drawn.count .login

/-- The page has a session. -/
def Gate.live (gate : Gate) : Nat := if gate.authed = some true then 1 else 0

/-- The events that may ask for a login, an expired request not among them: the
answer of `/auth/me`, a login, which a later expiry ends, and navigation. -/
def GateEvent.mayAsk : GateEvent → Bool
  | .me _ _ => true
  | .hashchange _ => true
  | .loggedIn _ => true
  | _ => false

theorem fromHash_authed (gate : Gate) (deck : Bool) :
    (gate.fromHash deck).authed = gate.authed := by
  cases hauthed : gate.authed with
  | none =>
      unfold Gate.fromHash
      simp [hauthed]
  | some authed =>
      -- drawing a page or the form says nothing of who is signed in
      cases authed with
      | false =>
          rw [fromHash_out hauthed]
          exact hauthed
      | true =>
          rw [fromHash_in hauthed, render_authed]
          exact hauthed

theorem fromHash_forms (gate : Gate) (deck : Bool) :
    (gate.fromHash deck).forms = gate.forms + if gate.authed = some false then 1 else 0 := by
  unfold Gate.forms
  cases hauthed : gate.authed with
  | none =>
      unfold Gate.fromHash
      simp [hauthed]
  | some authed =>
      cases authed with
      | false =>
          rw [fromHash_out hauthed]
          exact List.count_append.trans (by simp)
      | true =>
          rw [fromHash_in hauthed, render_drawn, List.count_append]
          -- signed in, no address draws the form
          cases routeOf (resolveRoute gate.hash deck) <;> simp

theorem loggedIn_forms (gate : Gate) (deck : Bool) :
    (gate.onLoggedIn deck).forms = gate.forms := by
  rw [onLoggedIn_eq, fromHash_forms]
  rfl

theorem refused_forms (gate : Gate) (deck : Bool) :
    (gate.refused deck).forms = gate.forms + 1 ∧ (gate.refused deck).live = 0 := by
  unfold Gate.refused Gate.live
  rw [fromHash_forms, fromHash_authed]
  exact ⟨rfl, rfl⟩

theorem live_le (gate : Gate) : gate.live ≤ 1 := by
  unfold Gate.live
  split <;> omega

theorem fromHash_live (gate : Gate) (deck : Bool) : (gate.fromHash deck).live = gate.live := by
  unfold Gate.live
  rw [fromHash_authed]

/-- The session a form is drawn for is one that was there, or asked for. -/
theorem forms_step (h : GateHolds gate) (hstep : gate.step event = some gate') :
    gate'.forms + gate'.live ≤ gate.forms + gate.live + if event.mayAsk then 1 else 0 := by
  cases event with
  | me ok deck =>
      simp only [Gate.step] at hstep
      split at hstep
      · cases hstep
        cases ok with
        | true =>
            have hforms := loggedIn_forms gate deck
            have hlive := live_le (gate.onLoggedIn deck)
            simp only [GateEvent.mayAsk, if_true]
            omega
        | false =>
            obtain ⟨hforms, hlive⟩ := refused_forms gate deck
            simp only [GateEvent.mayAsk, if_true]
            simp only [Bool.false_eq_true, if_false]
            omega
      · cases hstep
  | assign hash =>
      cases hstep
      unfold Gate.assign
      split <;> exact Nat.le_refl _
  | click tab deck =>
      simp only [Gate.step] at hstep
      split at hstep
      · next hchrome =>
          cases hstep
          have hauthed := h.chrome.mp hchrome
          unfold Gate.click
          split
          · rw [fromHash_forms, fromHash_live, hauthed]
            simp
          · unfold Gate.assign
            split <;> exact Nat.le_refl _
      · cases hstep
  | hashchange deck =>
      simp only [Gate.step] at hstep
      split at hstep
      · cases hstep
      · cases hstep
        rw [fromHash_forms, fromHash_live]
        simp only [GateEvent.mayAsk, if_true, Gate.forms, Gate.live]
        split <;> omega
  | loggedIn deck =>
      simp only [Gate.step] at hstep
      split at hstep
      · cases hstep
        have hforms := loggedIn_forms gate deck
        have hlive := live_le (gate.onLoggedIn deck)
        simp only [GateEvent.mayAsk, if_true]
        omega
      · cases hstep
  | loggedOut deck =>
      simp only [Gate.step] at hstep
      split at hstep
      · cases hstep
      · next hsome =>
          cases hstep
          unfold Gate.loggedOut
          by_cases hout : gate.authed = some false
          · rw [if_pos hout]
            exact Nat.le_refl _
          · rw [if_neg hout]
            -- a form for a session that was there
            have hlive : gate.live = 1 := by
              unfold Gate.live
              cases hauthed : gate.authed with
              | none => exact absurd hauthed hsome
              | some authed =>
                  cases authed with
                  | true => rfl
                  | false => exact absurd hauthed hout
            obtain ⟨hforms, hlive'⟩ := refused_forms gate deck
            unfold Gate.refused at hforms hlive'
            omega
  | logout =>
      simp only [Gate.step] at hstep
      split at hstep
      · cases hstep
        exact Nat.zero_le _
      · cases hstep

end Draw

/-! ## §6. Every run. -/

theorem holds_run {gate gate' : Gate} {events : List GateEvent}
    (h : Run Gate.step gate events gate') (hgate : GateHolds gate) : GateHolds gate' :=
  h.invariant (fun _ _ _ => holds_step) hgate

theorem forms_run {gate gate' : Gate} {events : List GateEvent}
    (h : Run Gate.step gate events gate') (hgate : GateHolds gate) :
    gate'.forms + gate'.live ≤ gate.forms + gate.live + events.countP GateEvent.mayAsk := by
  induction h with
  | nil gate => exact Nat.le_refl _
  | cons hstep _ ih =>
      have hone := forms_step hgate hstep
      have hrest := ih (holds_step hgate hstep)
      rw [List.countP_cons]
      omega

/-- The route that is shown, when this one is asked for. -/
def Route.resolve (route : Route) (deck : Bool) : Route :=
  if route = .studio ∧ deck = false then .discover else route

theorem resolveRoute_name (route : Route) (deck : Bool) :
    resolveRoute route.name deck = (route.resolve deck).name := by
  cases route <;> cases deck <;> decide

/-- The session is over, and the page remembers where it was. -/
theorem loggedOut_remembers {gate : Gate} {route : Route} (hauthed : gate.authed = some true)
    (hhash : gate.hash = route.name) (deck : Bool) :
    (gate.loggedOut deck).authed = some false ∧ (gate.loggedOut deck).returnTo = route.name ∧
      (gate.loggedOut deck).drawn = gate.drawn ++ [.login] := by
  unfold Gate.loggedOut
  rw [if_neg (by rw [hauthed]; decide), fromHash_out rfl]
  refine ⟨rfl, ?_, rfl⟩
  show (if inRoutes gate.hash = true then gate.hash else gate.returnTo) = route.name
  rw [hhash, if_pos (inRoutes_name route)]

/-- The other expired requests find it over already. -/
theorem loggedOut_again {gate gate' : Gate} {decks : List Bool}
    (hauthed : gate.authed = some false)
    (h : Run Gate.step gate (decks.map .loggedOut) gate') : gate' = gate := by
  induction decks generalizing gate with
  | nil =>
      cases h
      rfl
  | cons deck decks ih =>
      cases h with
      | cons hstep hrest =>
          -- `authed` is false from the first of them on
          have hsame : gate.loggedOut deck = gate := by
            unfold Gate.loggedOut
            rw [if_pos hauthed]
          simp only [Gate.step, hauthed, hsame, reduceCtorEq, if_false, Option.some.injEq] at hstep
          subst hstep
          exact ih hauthed hrest

theorem loggedIn_draws {gate : Gate} {route : Route} (htarget : gate.returnTo = route.name)
    (deck : Bool) :
    (gate.onLoggedIn deck).drawn = gate.drawn ++ [.route (route.resolve deck)] ∧
      (gate.onLoggedIn deck).hash = (route.resolve deck).name := by
  rw [onLoggedIn_eq, fromHash_in rfl, render_drawn, render_hash]
  simp [htarget, resolveRoute_name, routeOf_name]

/-- **A login after an expiry brings back what was there**, and one form was drawn
for it, however many requests found the session over. -/
theorem relogin_draws {gate gate' : Gate} (hgate : GateHolds gate) {route : Route}
    (hauthed : gate.authed = some true) (hpending : gate.pending = 0)
    (hview : gate.view = some route.name) {first deck : Bool} {decks : List Bool}
    (h : Run Gate.step gate (.loggedOut first :: decks.map .loggedOut ++ [.loggedIn deck]) gate') :
    gate'.drawn = gate.drawn ++ [.login, .route (route.resolve deck)] ∧
      gate'.hash = (route.resolve deck).name := by
  have hsome : gate.authed ≠ none := by simp [hauthed]
  -- with no `hashchange` pending the address bar is the hash
  have hhash : gate.hash = route.name := by
    have haddress := hgate.address hsome hpending
    rw [hview] at haddress
    exact (Option.some.inj haddress).symm
  obtain ⟨hout, htarget, hdrawn⟩ := loggedOut_remembers hauthed hhash first
  obtain ⟨mid, hexpired, hlogin⟩ := h.split
  cases hexpired with
  | cons hstep hrest =>
      simp only [Gate.step, if_neg hsome, Option.some.injEq] at hstep
      subst hstep
      obtain rfl := loggedOut_again hout hrest
      -- the login draws where the first expiry found the page
      cases hlogin with
      | cons hstep hnil =>
          cases hnil
          simp only [Gate.step] at hstep
          split at hstep
          · cases hstep
            obtain ⟨hdraws, hhash'⟩ := loggedIn_draws htarget deck
            rw [hdraws, hdrawn, List.append_assoc]
            exact ⟨rfl, hhash'⟩
          · cases hstep

/-- **NOTHING RENDERS WITHOUT A SESSION.**  In every run of a page the gate holds;
expired requests alone never draw a second login form; and a login after an
expiry brings the editor back to the route they were on. -/
theorem gate_holds {hash : Str} {events : List GateEvent} {gate : Gate}
    (h : Run Gate.step (Gate.opened hash) events gate) :
    GateHolds gate ∧ gate.drawn.count .login ≤ events.countP GateEvent.mayAsk ∧
      ∀ route : Route, gate.authed = some true → gate.pending = 0 → gate.view = some route.name →
        ∀ (first deck : Bool) (decks : List Bool) (gate' : Gate),
          Run Gate.step gate (.loggedOut first :: decks.map .loggedOut ++ [.loggedIn deck]) gate' →
          gate'.drawn = gate.drawn ++ [.login, .route (route.resolve deck)] ∧
            gate'.hash = (route.resolve deck).name := by
  have hgate := holds_run h (holds_opened hash)
  refine ⟨hgate, ?_, ?_⟩
  · have hforms := forms_run h (holds_opened hash)
    -- no form was drawn before the page was opened
    have hnone : (Gate.opened hash).forms + (Gate.opened hash).live = 0 := rfl
    rw [hnone, Nat.zero_add] at hforms
    exact Nat.le_of_add_right_le hforms
  · intro route hauthed hpending hview first deck decks gate' hrun
    exact relogin_draws hgate hauthed hpending hview hrun

/-- Opened on the gallery with a session, which two requests then find over. -/
def expiredTwice : List GateEvent :=
  [.me true false, .assign "cities".toList, .hashchange false, .loggedOut false, .loggedOut false,
    .loggedIn false]

/-- Back on the cities, where the session was when it ended. -/
def backOnCities : Gate where
  authed := some true
  returnTo := "cities".toList
  pickerMounted := true
  hash := "cities".toList
  chrome := true
  view := some "cities".toList
  whereText := Route.whereText .cities
  current := some .cities
  drawn := [.route .gallery, .route .cities, .login, .route .cities]
  mounts := 1
  pending := 0

theorem gate_holds_expiredTwice :
    Run Gate.step (Gate.opened "gallery".toList) expiredTwice backOnCities ∧
      GateHolds backOnCities ∧ backOnCities.drawn.count .login ≤ 3 := by
  have hrun : Run Gate.step (Gate.opened "gallery".toList) expiredTwice backOnCities :=
    run_iff_exec.mpr (by decide)
  obtain ⟨hgate, hforms, -⟩ := gate_holds hrun
  exact ⟨hrun, hgate, hforms⟩

end Feedcast
