/-
  Feedcast.Static.Api — requests to the API and the silent session refresh
  (`static/js/api.js`).

  `apiFetch` is split where it awaits: at the answer to its first request, at the
  promise of `refreshSession`, and at the answer to its second request.  `ρ` is
  what the network knows of a request on its way.  `refreshing` is the promise
  callers share; its `.finally` runs before those who await it go on.

    • `describeError`, `readResponse` — what a response comes to,
    • `ApiPage` — the calls of one page, the shared refresh and the events,
    • `ApiPage.step` — one answer, or one continuation, at a time.
-/
import Feedcast.Core.Platform
import Feedcast.Lib.SingleFlight

namespace Feedcast

open Feedcast.Lib

/-! ## §1. Reading a response. -/

structure ApiError where
  status : Nat
  message : Str
  deriving Repr, DecidableEq

/-- The `detail` of an error body. -/
inductive ErrorDetail
  /-- The parts of `loc`, where it is an array, and `msg`. -/
  | errors (items : List (List Str × Str))
  | text (detail : Str)
  | other
  deriving Repr, DecidableEq

/-- `` `request failed (${status})` ``. -/
def requestFailed (status : Nat) : Str :=
  "request failed (".toList ++ (toString status).toList ++ ")".toList

def describeError (status : Nat) : ErrorDetail → Str
  | .errors items =>
      let describe := fun (item : List Str × Str) =>
        let field := List.intercalate ".".toList (item.1.filter (· ≠ "body".toList))
        if field = [] then item.2 else field ++ ": ".toList ++ item.2
      List.intercalate "; ".toList (items.map describe)
  | .text detail => detail
  | .other => requestFailed status

/-- `JSON.parse`, and where a body keeps its `detail`. -/
structure JsonReader (J : Type) where
  parse : Str → Option J
  detail : J → ErrorDetail

structure ApiResponse where
  status : Nat
  text : Str
  deriving Repr, DecidableEq

/-- `response.ok`. -/
def isOk (status : Nat) : Bool := 200 ≤ status ∧ status ≤ 299

/-- What `apiFetch` resolves to. -/
inductive ApiBody (J : Type)
  | blob (content : Str)
  | json (body : Option J)

/-- What is left of `apiFetch` once it has its last response. -/
def readResponse {J : Type} (reader : JsonReader J) (blob : Bool) (response : ApiResponse) :
    Except ApiError (ApiBody J) :=
  if blob && isOk response.status then .ok (.blob response.text)
  else
    let body : Except ApiError (Option J) :=
      if response.text = [] then .ok none
      else
        match reader.parse response.text with
        | some body => .ok (some body)
        | none =>
            if isOk response.status then
              .error { status := response.status
                       message := "the server sent a response that could not be read".toList }
            else .error { status := response.status, message := requestFailed response.status }
    match body with
    | .error error => .error error
    | .ok body =>
        if isOk response.status then .ok (.json body)
        else
          .error { status := response.status
                   message := describeError response.status ((body.map reader.detail).getD .other) }

/-- Whatever the body is, an error is raised under the status of its response. -/
theorem readResponse_error_status {J : Type} {reader : JsonReader J} {blob : Bool}
    {response : ApiResponse} {error : ApiError}
    (h : readResponse reader blob response = .error error) : error.status = response.status := by
  unfold readResponse at h
  simp only at h
  split at h
  · cases h
  · split at h
    · next error' hbody =>
        cases h
        -- the body of an error may be missing, or be no JSON; its status is there in any case
        split at hbody
        · cases hbody
        · split at hbody
          · cases hbody
          · split at hbody
            · cases hbody
              rfl
            · cases hbody
              rfl
    · split at h
      · cases h
      · cases h
        rfl

/-- A response that is not `ok` is thrown, blob or not. -/
theorem readResponse_of_not_ok {J : Type} (reader : JsonReader J) (blob : Bool)
    {response : ApiResponse} (h : isOk response.status = false) :
    ∃ message, readResponse reader blob response
      = .error { status := response.status, message := message } := by
  unfold readResponse
  rw [h, Bool.and_false]
  -- an empty body, one that parses, and one that does not
  by_cases hempty : response.text = []
  · exact ⟨describeError response.status .other, by simp [hempty]⟩
  · cases hparse : reader.parse response.text with
    | some body =>
        exact ⟨describeError response.status (reader.detail body), by simp [hempty]⟩
    | none => exact ⟨requestFailed response.status, by simp [hempty]⟩

/-! ## §2. The calls of a page. -/

/-- What a `fetch` comes to. -/
inductive FetchReply
  | status (code : Nat)
  /-- It rejects. -/
  | failed
  deriving Repr, DecidableEq

/-- Where a call of `apiFetch` stands. -/
inductive ApiStage (ρ : Type)
  | first (request : ρ)
  /-- It awaits the refresh of this number. -/
  | awaiting (refresh : Nat)
  | second (refresh : Nat) (request : ρ)
  /-- The refresh it awaited, if it did, and its last answer. -/
  | ended (refresh : Option Nat) (reply : FetchReply)
  deriving Repr, DecidableEq

structure ApiCall (ρ : Type) where
  path : Str
  stage : ApiStage ρ
  deriving Repr, DecidableEq

/-- A `fetch` of this module. -/
inductive ApiSent
  | request (call : Nat)
  | refresh (n : Nat)
  deriving Repr, DecidableEq

structure ApiPage (ρ : Type) where
  refreshing : Flight Bool := {}
  calls : List (ApiCall ρ) := []
  /-- The requests, in the order they were sent. -/
  sent : List ApiSent := []
  /-- The calls that dispatched `feedcast:logged-out`. -/
  loggedOut : List Nat := []
  deriving Repr, DecidableEq

/-- `path.startsWith("/auth/")`. -/
def underAuth (path : Str) : Bool := "/auth/".toList.isPrefixOf path

namespace ApiPage

variable {ρ : Type}

/-- `apiFetch(path)`, up to its first `await`. -/
def call (page : ApiPage ρ) (path : Str) (request : ρ) : ApiPage ρ :=
  { page with
    calls := page.calls ++ [{ path := path, stage := .first request }]
    sent := page.sent ++ [.request page.calls.length] }

/-- The call goes on to this stage. -/
def goOn (page : ApiPage ρ) (i : Nat) (call : ApiCall ρ) (stage : ApiStage ρ) : ApiPage ρ :=
  { page with calls := page.calls.set i { call with stage := stage } }

/-- `await refreshSession()`. -/
def awaitRefresh (page : ApiPage ρ) (i : Nat) (call : ApiCall ρ) : ApiPage ρ :=
  let (flight, n) := page.refreshing.join
  { page.goOn i call (.awaiting n) with
    refreshing := flight
    sent := if page.refreshing.current = none then page.sent ++ [.refresh n] else page.sent }

/-- The call has its last answer, after a refresh: `dispatchEvent` if that is a 401. -/
def finish (page : ApiPage ρ) (i : Nat) (call : ApiCall ρ) (n : Nat) (reply : FetchReply) :
    ApiPage ρ :=
  { page.goOn i call (.ended (some n) reply) with
    loggedOut := if reply = .status 401 then page.loggedOut ++ [i] else page.loggedOut }

/-- The answer to a request of the call. -/
def respond (page : ApiPage ρ) (i : Nat) (reply : FetchReply) : Option (ApiPage ρ) :=
  match page.calls[i]? with
  | none => none
  | some call =>
      match call.stage with
      | .first _ =>
          if reply = .status 401 ∧ underAuth call.path = false then
            some (page.awaitRefresh i call)
          else some (page.goOn i call (.ended none reply))
      | .second n _ => some (page.finish i call n reply)
      | _ => none

/-- The promise the call awaits has resolved; `request` is the retry. -/
def resume (page : ApiPage ρ) (i : Nat) (request : ρ) : Option (ApiPage ρ) :=
  match page.calls[i]? with
  | none => none
  | some call =>
      match call.stage with
      | .awaiting n =>
          match page.refreshing.outcome n with
          | some true =>
              some { page.goOn i call (.second n request) with
                sent := page.sent ++ [.request i] }
          | some false => some (page.finish i call n (.status 401))
          | none => none
      | _ => none

/-- Something happens to a request of the call on its way. -/
def progress (page : ApiPage ρ) (i : Nat) (f : ρ → ρ) : Option (ApiPage ρ) :=
  match page.calls[i]? with
  | none => none
  | some call =>
      match call.stage with
      | .first request => some (page.goOn i call (.first (f request)))
      | .second n request => some (page.goOn i call (.second n (f request)))
      | _ => none

end ApiPage

inductive ApiEvent (ρ : Type)
  | call (path : Str) (request : ρ)
  | progress (i : Nat) (f : ρ → ρ)
  | respond (i : Nat) (reply : FetchReply)
  /-- The refresh is answered, `response.ok` or not, or rejects. -/
  | refreshed (n : Nat) (ok : Bool)
  /-- `.finally(() => { refreshing = null; })`. -/
  | landed (n : Nat)
  | resume (i : Nat) (request : ρ)

def ApiPage.step {ρ : Type} (page : ApiPage ρ) : ApiEvent ρ → Option (ApiPage ρ)
  | .call path request => some (page.call path request)
  | .progress i f => page.progress i f
  | .respond i reply => page.respond i reply
  | .refreshed n ok =>
      (page.refreshing.answer n ok).map fun flight => { page with refreshing := flight }
  | .landed n => (page.refreshing.land n).map fun flight => { page with refreshing := flight }
  | .resume i request => page.resume i request

/-! ## §3. What a step can do. -/

section Cases

variable {ρ : Type} {page page' : ApiPage ρ} {i : Nat} {request : ρ} {reply : FetchReply}

/-- A first answer is the last one, unless it is a 401 that a refresh may help; a
second one always is. -/
theorem respond_cases (h : page.respond i reply = some page') :
    ∃ call, page.calls[i]? = some call ∧
      ((∃ sent, call.stage = .first sent ∧ reply = .status 401 ∧ underAuth call.path = false ∧
          page' = page.awaitRefresh i call) ∨
        (∃ sent, call.stage = .first sent ∧
          (reply = .status 401 → underAuth call.path = true) ∧
          page' = page.goOn i call (.ended none reply)) ∨
        (∃ n sent, call.stage = .second n sent ∧ page' = page.finish i call n reply)) := by
  unfold ApiPage.respond at h
  cases hget : page.calls[i]? with
  | none =>
      rw [hget] at h
      cases h
  | some call =>
      rw [hget] at h
      simp only at h
      refine ⟨call, rfl, ?_⟩
      cases hstage : call.stage with
      | first sent =>
          rw [hstage] at h
          simp only at h
          -- a 401 to a call under `/auth/` is an answer like any other
          by_cases hexpired : reply = .status 401 ∧ underAuth call.path = false
          · rw [if_pos hexpired] at h
            cases h
            exact Or.inl ⟨sent, rfl, hexpired.1, hexpired.2, rfl⟩
          · rw [if_neg hexpired] at h
            cases h
            refine Or.inr (Or.inl ⟨sent, rfl, ?_, rfl⟩)
            intro hreply
            simpa [hreply] using hexpired
      | second n sent =>
          rw [hstage] at h
          cases h
          exact Or.inr (Or.inr ⟨n, sent, rfl, rfl⟩)
      | awaiting n =>
          rw [hstage] at h
          cases h
      | ended refresh reply =>
          rw [hstage] at h
          cases h

/-- A call goes on with the result of the refresh it awaits: with a second request,
or to its end. -/
theorem resume_cases (h : page.resume i request = some page') :
    ∃ call n, page.calls[i]? = some call ∧ call.stage = .awaiting n ∧
      ((page.refreshing.outcome n = some true ∧
          page' = { page.goOn i call (.second n request) with
            sent := page.sent ++ [.request i] }) ∨
        (page.refreshing.outcome n = some false ∧
          page' = page.finish i call n (.status 401))) := by
  unfold ApiPage.resume at h
  cases hget : page.calls[i]? with
  | none =>
      rw [hget] at h
      cases h
  | some call =>
      rw [hget] at h
      simp only at h
      cases hstage : call.stage with
      | awaiting n =>
          refine ⟨call, n, rfl, hstage, ?_⟩
          rw [hstage] at h
          simp only at h
          -- the promise has to be settled before those who await it go on
          cases houtcome : page.refreshing.outcome n with
          | none =>
              rw [houtcome] at h
              cases h
          | some ok =>
              rw [houtcome] at h
              cases ok with
              | true =>
                  cases h
                  exact Or.inl ⟨rfl, rfl⟩
              | false =>
                  cases h
                  exact Or.inr ⟨rfl, rfl⟩
      | first sent =>
          rw [hstage] at h
          cases h
      | second n sent =>
          rw [hstage] at h
          cases h
      | ended refresh reply =>
          rw [hstage] at h
          cases h

theorem progress_cases {f : ρ → ρ} (h : page.progress i f = some page') :
    ∃ call, page.calls[i]? = some call ∧
      ((∃ sent, call.stage = .first sent ∧ page' = page.goOn i call (.first (f sent))) ∨
        (∃ n sent, call.stage = .second n sent ∧
          page' = page.goOn i call (.second n (f sent)))) := by
  unfold ApiPage.progress at h
  cases hget : page.calls[i]? with
  | none =>
      rw [hget] at h
      cases h
  | some call =>
      rw [hget] at h
      simp only at h
      refine ⟨call, rfl, ?_⟩
      -- only a call with a request on its way has something to progress
      cases hstage : call.stage with
      | first sent =>
          rw [hstage] at h
          cases h
          exact Or.inl ⟨sent, rfl, rfl⟩
      | second n sent =>
          rw [hstage] at h
          cases h
          exact Or.inr ⟨n, sent, rfl, rfl⟩
      | awaiting n =>
          rw [hstage] at h
          cases h
      | ended refresh reply =>
          rw [hstage] at h
          cases h

end Cases

end Feedcast
