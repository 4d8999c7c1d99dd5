/-
  Feedcast.Cities.Freshness — what `load()` brings after an `invalidate()`.

  Loads, forced or not, invalidations and responses come in any order.  Each
  request and each load remembers how many invalidations came before it.  A
  response does not ask whether the list was invalidated while it was on its way:
  it sets `loaded` again, and callers go on sharing its promise.

    • `Refetched` — the promise of `invalidate`, at any time,
    • `NoneSince` — the responses that keep it,
    • `refetched_along` — a run of such steps keeps the promise,
    • `invalidate_promise` — and any other response breaks it with the next
      `load()`.
-/
import Feedcast.Lib.Runs
import Feedcast.Static.City

namespace Feedcast

open Feedcast.Lib

/-! ## §1. Runs. -/

/-- `GET /cities`. -/
structure CityRequest where
  /-- How many invalidations came before it. -/
  after : Nat
  outcome : Option (Except Str (List City)) := none

/-- One call of `load`. -/
structure LoadCall where
  /-- How many invalidations came before it. -/
  after : Nat
  loading : Loading
  /-- The request the cached list came from, when the call was made. -/
  source : Option Nat

structure CityPage where
  store : CityStore Nat
  requests : List CityRequest := []
  loads : List LoadCall := []
  invalidations : Nat := 0
  /-- The request `cities` came from. -/
  source : Option Nat := none

inductive CityEvent
  | load (force : Bool)
  | invalidate
  | respond (n : Nat) (outcome : Except Str (List City))
  | set (id : Nat)

def CityPage.opened (stored : Option Nat) : CityPage where
  store := CityStore.opened Nat stored

/-- A call of `load`, and the request it issues, if it does. -/
def CityPage.load (page : CityPage) (force : Bool) : CityPage :=
  let next := page.requests.length
  let (store, loading) := page.store.load force next
  { page with
    store := store
    requests :=
      if loading = .request next then page.requests ++ [{ after := page.invalidations }]
      else page.requests
    loads := page.loads ++
      [{ after := page.invalidations, loading := loading, source := page.source }] }

/-- The response to a request that is on its way. -/
def CityPage.respond (page : CityPage) (n : Nat) (request : CityRequest)
    (outcome : Except Str (List City)) : CityPage :=
  let requests := page.requests.set n { request with outcome := some outcome }
  match outcome with
  | .ok cities =>
      { page with store := page.store.fulfilled cities, requests := requests, source := some n }
  | .error _ => { page with store := page.store.rejected, requests := requests }

def CityPage.step (page : CityPage) : CityEvent → Option CityPage
  | .load force => some (page.load force)
  | .invalidate =>
      some { page with store := page.store.invalidate, invalidations := page.invalidations + 1 }
  | .respond n outcome =>
      match page.requests[n]? with
      | some request =>
          match request.outcome with
          | none => some (page.respond n request outcome)
          | some _ => none
      | none => none
  | .set id => some { page with store := page.store.set id }

/-! ## §2. The promise. -/

/-- The list a request was answered with. -/
def CityRequest.list (request : CityRequest) : Option (List City) :=
  match request.outcome with
  | some (.ok cities) => some cities
  | _ => none

/-- The list a call of `load` has resolved to, and the request it came from. -/
def CityPage.resolved (page : CityPage) (load : LoadCall) : Option (List City × Option Nat) :=
  match load.loading with
  | .now cities => some (cities, load.source)
  | .request n => ((page.requests[n]?).bind (·.list)).map fun cities => (cities, some n)

/-- A list came from a request with this many invalidations before it, or more. -/
def CityPage.CameAfter (page : CityPage) (after : Nat) (cities : List City)
    (source : Option Nat) : Prop :=
  ∃ n request, source = some n ∧ page.requests[n]? = some request ∧
    request.list = some cities ∧ after ≤ request.after

/-- **What `invalidate` promises**, for the loads that began after one: the list
they resolve to comes from a request issued after it, and so does the list
`all()` returns once they have resolved and no request is in flight. -/
structure Refetched (page : CityPage) : Prop where
  resolved : ∀ load ∈ page.loads, 0 < load.after → ∀ cities source,
    page.resolved load = some (cities, source) → page.CameAfter load.after cities source
  all : (∀ request ∈ page.requests, request.outcome ≠ none) →
    ∀ load ∈ page.loads, 0 < load.after → page.resolved load ≠ none →
      page.CameAfter load.after page.store.cities page.source

/-- A response brings a list only if no invalidation has come since its request
was issued. -/
def NoneSince (page : CityPage) : CityEvent → Prop
  | .respond n (.ok _) => ∀ request, page.requests[n]? = some request →
      request.outcome = none → request.after = page.invalidations
  | _ => True

/-! ## §3. One step. -/

/-- What holds of the page while no response is late. -/
structure CityPage.Inv (page : CityPage) : Prop where
  inFlight : ∀ n, page.store.inFlight = some n →
    ∃ request, page.requests[n]? = some request ∧ request.outcome = none
  after : ∀ load ∈ page.loads, load.after ≤ page.invalidations
  loaded : page.store.loaded = true →
    page.CameAfter page.invalidations page.store.cities page.source
  resolved : ∀ load ∈ page.loads, ∀ cities source,
    page.resolved load = some (cities, source) → page.CameAfter load.after cities source
  latest : ∀ load ∈ page.loads, page.resolved load ≠ none →
    page.CameAfter load.after page.store.cities page.source

section Step

variable {page page' : CityPage} {load : LoadCall} {n after : Nat} {request : CityRequest}
  {cities : List City} {source : Option Nat}

/-- What has been answered stays as it was answered. -/
def CityPage.Extends (page page' : CityPage) : Prop :=
  ∀ (n : Nat) (request : CityRequest), page.requests[n]? = some request →
    request.list ≠ none → page'.requests[n]? = some request

theorem CityPage.CameAfter.extend (h : page.CameAfter after cities source)
    (hext : page.Extends page') : page'.CameAfter after cities source := by
  obtain ⟨n, request, hsource, hget, hlist, hafter⟩ := h
  refine ⟨n, request, hsource, hext n request hget ?_, hlist, hafter⟩
  rw [hlist]
  exact Option.some_ne_none cities

theorem resolved_congr (h : ∀ n : Nat, (page'.requests[n]?).bind CityRequest.list
    = (page.requests[n]?).bind CityRequest.list) : page'.resolved load = page.resolved load := by
  unfold CityPage.resolved
  cases load.loading with
  | now cities => rfl
  | request n => exact congrArg (Option.map fun cities => (cities, some n)) (h n)

/-- A request that is on its way resolves nothing. -/
theorem list_append_pending (requests : List CityRequest) (after n : Nat) :
    ((requests ++ [{ after := after }])[n]?).bind CityRequest.list
      = (requests[n]?).bind CityRequest.list := by
  rcases lt_trichotomy n requests.length with hlt | heq | hgt
  · rw [List.getElem?_append_left hlt]
  · subst heq
    rw [List.getElem?_concat_length, List.getElem?_eq_none (le_refl _)]
    rfl
  · rw [List.getElem?_eq_none (le_of_lt hgt),
      List.getElem?_eq_none (by simpa using Nat.succ_le_of_lt hgt)]

/-- What a response does to the list of one request, and of the others. -/
theorem list_set {requests : List CityRequest} (hget : requests[n]? = some request) (m : Nat)
    (outcome : Except Str (List City)) :
    ((requests.set n { request with outcome := some outcome })[m]?).bind CityRequest.list
      = if m = n then CityRequest.list { request with outcome := some outcome }
        else (requests[m]?).bind CityRequest.list := by
  obtain ⟨hlt, -⟩ := List.getElem?_eq_some_iff.mp hget
  by_cases hm : m = n
  · subst hm
    rw [if_pos rfl, List.getElem?_set_self hlt]
    rfl
  · rw [if_neg hm, List.getElem?_set_ne (Ne.symm hm)]

@[simp] theorem respond_requests (page : CityPage) (n : Nat) (request : CityRequest)
    (outcome : Except Str (List City)) : (page.respond n request outcome).requests
      = page.requests.set n { request with outcome := some outcome } := by
  cases outcome with
  | ok cities => rfl
  | error e => rfl

@[simp] theorem respond_invalidations (page : CityPage) (n : Nat) (request : CityRequest)
    (outcome : Except Str (List City)) :
    (page.respond n request outcome).invalidations = page.invalidations := by
  cases outcome with
  | ok cities => rfl
  | error e => rfl

theorem extends_respond (hget : page.requests[n]? = some request)
    (hpending : request.outcome = none) (outcome : Except Str (List City)) :
    page.Extends (page.respond n request outcome) := by
  intro m answered hm hlist
  -- the request answered now has had no answer before
  have hne : n ≠ m := by
    intro heq
    subst heq
    rw [hget] at hm
    cases hm
    exact hlist (by rw [CityRequest.list, hpending])
  rw [respond_requests, List.getElem?_set_ne hne]
  exact hm

/-- The three ways a call of `load` goes. -/
theorem load_cases (h : page.Inv) (force : Bool) :
    (page.store.loaded = true ∧ page.load force = { page with
      loads := page.loads ++
        [{ after := page.invalidations, loading := .now page.store.cities,
           source := page.source }] }) ∨
    (∃ n, page.store.inFlight = some n ∧ page.load force = { page with
      loads := page.loads ++
        [{ after := page.invalidations, loading := .request n, source := page.source }] }) ∨
    page.load force = { page with
      store := { page.store with inFlight := some page.requests.length }
      requests := page.requests ++ [{ after := page.invalidations }]
      loads := page.loads ++
        [{ after := page.invalidations, loading := .request page.requests.length,
           source := page.source }] } := by
  rcases page.store.load_cases force page.requests.length with hcached | hshared | hissued
  · obtain ⟨hloaded, hload⟩ := hcached
    exact Or.inl ⟨hloaded, by simp [CityPage.load, hload]⟩
  · obtain ⟨n, hflight, hload⟩ := hshared
    -- the request on its way is one of those that were issued
    obtain ⟨request, hget, -⟩ := h.inFlight n hflight
    have hne : n ≠ page.requests.length := Nat.ne_of_lt (List.getElem?_eq_some_iff.mp hget).1
    exact Or.inr (Or.inl ⟨n, hflight, by simp [CityPage.load, hload, hne]⟩)
  · exact Or.inr (Or.inr (by simp [CityPage.load, hissued]))

/-- What a response does to the calls that have resolved: those that wait for it
resolve to its list, if it brings one, and the others stay as they were. -/
theorem resolved_respond (hget : page.requests[n]? = some request)
    (hpending : request.outcome = none) (outcome : Except Str (List City))
    (h : (page.respond n request outcome).resolved load = some (cities, source)) :
    (outcome = .ok cities ∧ source = some n) ∨ page.resolved load = some (cities, source) := by
  have hbefore : (page.requests[n]?).bind CityRequest.list = none := by
    rw [hget, Option.bind_some, CityRequest.list, hpending]
  -- a failure resolves to no list, as a request that is out does
  cases outcome with
  | error e =>
      refine Or.inr ?_
      rw [← h]
      refine (resolved_congr fun m => ?_).symm
      refine (list_set hget m _).trans ?_
      by_cases hm : m = n
      · rw [if_pos hm, hm, hbefore]
        rfl
      · rw [if_neg hm]
  | ok list =>
      unfold CityPage.resolved at h ⊢
      cases hloading : load.loading with
      | now cached =>
          rw [hloading] at h
          exact Or.inr h
      | request m =>
          rw [hloading] at h
          have hset := list_set hget m (.ok list)
          by_cases hm : m = n
          · rw [if_pos hm] at hset
            have h : ((((page.requests.set n { request with outcome := some (.ok list) })[m]?).bind
                CityRequest.list).map fun cities => (cities, some m)) = some (cities, source) := h
            rw [hset] at h
            cases h
            exact Or.inl ⟨rfl, congrArg some hm⟩
          · rw [if_neg hm] at hset
            refine Or.inr ?_
            show ((page.requests[m]?).bind CityRequest.list).map (fun cities => (cities, some m))
              = _
            rw [← hset]
            exact h

/-- One more call, which is waiting or has resolved to a list that is fresh. -/
theorem CityPage.Inv.append (h : page.Inv) (hafter : load.after ≤ page.invalidations)
    (hfresh : page.resolved load = none ∨
      (page.resolved load = some (page.store.cities, page.source)
        ∧ page.CameAfter load.after page.store.cities page.source)) :
    CityPage.Inv { page with loads := page.loads ++ [load] } := by
  refine { inFlight := h.inFlight, after := ?_, loaded := h.loaded, resolved := ?_, latest := ?_ }
  · intro load' hload'
    rcases List.mem_append.mp hload' with hold | hnew
    · exact h.after load' hold
    · rw [List.mem_singleton.mp hnew]
      exact hafter
  · intro load' hload' cities source hres
    rcases List.mem_append.mp hload' with hold | hnew
    · exact h.resolved load' hold cities source hres
    · rw [List.mem_singleton.mp hnew] at hres ⊢
      -- the new call waits, or has taken the list that is loaded
      rcases hfresh with hwaits | hcame
      · cases hwaits.symm.trans hres
      · cases hcame.1.symm.trans hres
        exact hcame.2
  · intro load' hload' hres
    rcases List.mem_append.mp hload' with hold | hnew
    · exact h.latest load' hold hres
    · rw [List.mem_singleton.mp hnew] at hres ⊢
      rcases hfresh with hwaits | hcame
      · exact absurd hwaits hres
      · exact hcame.2

/-- A request that is issued resolves nothing yet. -/
theorem CityPage.Inv.issue (h : page.Inv) (hissued : page' = { page with
    store := { page.store with inFlight := some page.requests.length }
    requests := page.requests ++ [{ after := page.invalidations }] }) : page'.Inv := by
  have hext : page.Extends page' := by
    intro m answered hm _
    rw [hissued]
    exact (List.getElem?_append_left (List.getElem?_eq_some_iff.mp hm).1).trans hm
  -- a request that is out gives nobody a list
  have hsame (load : LoadCall) : page'.resolved load = page.resolved load := by
    rw [hissued]
    exact resolved_congr (list_append_pending page.requests page.invalidations)
  subst hissued
  refine { inFlight := ?_, after := h.after, loaded := ?_, resolved := ?_, latest := ?_ }
  · intro n hn
    cases hn
    exact ⟨_, List.getElem?_concat_length, rfl⟩
  · intro hloaded
    exact (h.loaded hloaded).extend hext
  · intro load hload cities source hres
    rw [hsame load] at hres
    exact (h.resolved load hload cities source hres).extend hext
  · intro load hload hres
    rw [hsame load] at hres
    exact (h.latest load hload hres).extend hext

theorem freshInv_load (h : page.Inv) (force : Bool) : (page.load force).Inv := by
  -- served from the cache, joined to the request in flight, or asked anew
  rcases load_cases h force with hcached | hshared | hissued
  · obtain ⟨hloaded, heq⟩ := hcached
    rw [heq]
    exact h.append (le_refl _) (Or.inr ⟨rfl, h.loaded hloaded⟩)
  · obtain ⟨n, hflight, heq⟩ := hshared
    rw [heq]
    obtain ⟨request, hget, hpending⟩ := h.inFlight n hflight
    refine h.append (le_refl _) (Or.inl ?_)
    simp [CityPage.resolved, hget, CityRequest.list, hpending]
  · rw [hissued]
    refine (h.issue rfl).append (le_refl _) (Or.inl ?_)
    simp [CityPage.resolved, CityRequest.list]

/-- A response that fails resolves nothing. -/
theorem freshInv_failed (h : page.Inv) (hget : page.requests[n]? = some request)
    (hpending : request.outcome = none) (e : Str) : (page.respond n request (.error e)).Inv := by
  -- what was loaded stays loaded; the error frees `inFlight`
  have hext := extends_respond hget hpending (.error e)
  have hsame {load : LoadCall} {cities : List City} {source : Option Nat}
      (hres : (page.respond n request (.error e)).resolved load = some (cities, source)) :
      page.resolved load = some (cities, source) := by
    rcases resolved_respond hget hpending (.error e) hres with hlist | hres
    · cases hlist.1
    · exact hres
  refine { inFlight := ?_, after := h.after, loaded := ?_, resolved := ?_, latest := ?_ }
  · intro m hm
    cases hm
  · intro hloaded
    exact (h.loaded hloaded).extend hext
  · intro load hload cities source hres
    exact (h.resolved load hload cities source (hsame hres)).extend hext
  · intro load hload hres
    obtain ⟨answer, hanswer⟩ := Option.ne_none_iff_exists'.mp hres
    refine (h.latest load hload ?_).extend hext
    rw [hsame hanswer]
    exact Option.some_ne_none _

/-- A response brings a list that is fresh, for all the loads there are, if
nobody has invalidated since it was asked for. -/
theorem freshInv_answered (h : page.Inv) (hget : page.requests[n]? = some request)
    (hpending : request.outcome = none) (hafter : request.after = page.invalidations)
    (list : List City) : (page.respond n request (.ok list)).Inv := by
  have hext := extends_respond hget hpending (.ok list)
  obtain ⟨hlt, -⟩ := List.getElem?_eq_some_iff.mp hget
  -- no invalidation came between the request and its answer
  have hcame {after : Nat} (hle : after ≤ page.invalidations) :
      (page.respond n request (.ok list)).CameAfter after list (some n) :=
    ⟨n, { request with outcome := some (.ok list) }, rfl, List.getElem?_set_self hlt, rfl,
      hafter.symm ▸ hle⟩
  refine { inFlight := ?_, after := h.after, loaded := ?_, resolved := ?_, latest := ?_ }
  · intro m hm
    cases hm
  · intro _
    exact hcame (le_refl _)
  · intro load hload cities source hres
    rcases resolved_respond hget hpending (.ok list) hres with hlist | hres
    · obtain ⟨hlist, rfl⟩ := hlist
      cases hlist
      exact hcame (h.after load hload)
    · exact (h.resolved load hload cities source hres).extend hext
  · intro load hload _
    exact hcame (h.after load hload)

theorem freshInv_step (h : page.Inv) {event : CityEvent} (hnone : NoneSince page event)
    (hstep : page.step event = some page') : page'.Inv := by
  cases event with
  | load force =>
      cases hstep
      exact freshInv_load h force
  -- `loaded` goes, so the next call is to fetch
  | invalidate =>
      cases hstep
      refine { inFlight := h.inFlight, after := ?_, loaded := ?_, resolved := h.resolved,
               latest := h.latest }
      · intro load hload
        exact Nat.le_succ_of_le (h.after load hload)
      · intro hloaded
        cases hloaded
  | respond n outcome =>
      simp only [CityPage.step] at hstep
      split at hstep
      · rename_i request hget
        split at hstep
        · rename_i hpending
          cases hstep
          cases outcome with
          | error e => exact freshInv_failed h hget hpending e
          | ok list => exact freshInv_answered h hget hpending (hnone request hget hpending) list
        · cases hstep
      · cases hstep
  | set id =>
      cases hstep
      exact { inFlight := h.inFlight, after := h.after, loaded := h.loaded, resolved := h.resolved,
              latest := h.latest }

end Step

theorem CityPage.Inv.refetched {page : CityPage} (h : page.Inv) : Refetched page where
  resolved := by
    intro load hload _
    exact h.resolved load hload
  all := by
    intro _ load hload _
    exact h.latest load hload

/-! ## §4. Runs. -/

/-- While no response is late, the promise is kept. -/
theorem refetched_along (stored : Option Nat) (events : List CityEvent)
    (h : Along CityPage.step NoneSince (CityPage.opened stored) events) :
    Throughout CityPage.step Refetched (CityPage.opened stored) events := by
  have hstart : (CityPage.opened stored).Inv := by
    refine { inFlight := ?_, after := ?_, loaded := ?_, resolved := ?_, latest := ?_ }
    · intro n hn
      cases hn
    · intro load hload
      exact absurd hload List.not_mem_nil
    · intro hloaded
      cases hloaded
    · intro load hload
      exact absurd hload List.not_mem_nil
    · intro load hload
      exact absurd hload List.not_mem_nil
  -- the condition is needed at each answer: one that is late sets `loaded` again
  have hinv := invariant_along (I := CityPage.Inv)
    (fun _ _ _ hI hC hstep => freshInv_step hI hC hstep) hstart h
  intro pre hpre page hrun
  exact (hinv pre hpre page hrun).refetched

/-- **A late list breaks the promise with the next `load()`**, which gets it from
the cache. -/
theorem lateList_breaks {page : CityPage} {n : Nat} {cities : List City}
    (hinv : ∀ request ∈ page.requests, request.after ≤ page.invalidations)
    (henabled : ∃ request, page.requests[n]? = some request ∧ request.outcome = none)
    (hlate : ¬ NoneSince page (.respond n (.ok cities))) :
    ∃ page', Run CityPage.step page [.respond n (.ok cities), .load false] page' ∧
      ¬ Refetched page' := by
  obtain ⟨request, hget, hpending⟩ := henabled
  obtain ⟨hlt, -⟩ := List.getElem?_eq_some_iff.mp hget
  have hbefore : request.after < page.invalidations := by
    have hle := hinv request (List.mem_of_getElem? hget)
    refine lt_of_le_of_ne hle fun heq => hlate ?_
    intro request' hget' _
    rw [hget] at hget'
    cases hget'
    exact heq
  have hrespond : page.step (.respond n (.ok cities))
      = some (page.respond n request (.ok cities)) := by
    simp only [CityPage.step, hget, hpending]
  refine ⟨_, Run.cons hrespond (Run.cons rfl (Run.nil _)), ?_⟩
  intro hkept
  -- the call that follows, and what it resolves to
  obtain ⟨m, answered, hm, hanswered, -, hafter⟩ := hkept.resolved
    { after := page.invalidations, loading := .now cities, source := some n }
    (List.mem_append_right _ List.mem_cons_self) (Nat.zero_lt_of_lt hbefore) cities (some n) rfl
  cases hm
  have hset : (page.requests.set n { request with outcome := some (.ok cities) })[n]?
      = some answered := hanswered
  rw [List.getElem?_set_self hlt] at hset
  cases hset
  exact absurd hbefore (not_lt_of_ge hafter)

/-- A request is never issued with more invalidations before it than there are. -/
theorem requests_after {stored : Option Nat} {events : List CityEvent} {page : CityPage}
    (h : Run CityPage.step (CityPage.opened stored) events page) :
    ∀ request ∈ page.requests, request.after ≤ page.invalidations := by
  refine h.invariant (I := fun page => ∀ request ∈ page.requests,
    request.after ≤ page.invalidations) ?_ ?_
  · intro page event page' hI hstep
    -- a request notes the count of its time, which never goes down
    cases event with
    | load force =>
        cases hstep
        intro request hrequest
        simp only [CityPage.load] at hrequest
        split at hrequest
        · rcases List.mem_append.mp hrequest with hold | hnew
          · exact hI request hold
          · rw [List.mem_singleton.mp hnew]
            exact le_refl page.invalidations
        · exact hI request hrequest
    | invalidate =>
        cases hstep
        intro request hrequest
        exact Nat.le_succ_of_le (hI request hrequest)
    | respond n outcome =>
        simp only [CityPage.step] at hstep
        split at hstep
        · rename_i answered hget
          split at hstep
          · cases hstep
            intro request hrequest
            rw [respond_requests] at hrequest
            rw [respond_invalidations]
            rcases List.mem_or_eq_of_mem_set hrequest with hold | hnew
            · exact hI request hold
            · rw [hnew]
              exact hI answered (List.mem_of_getElem? hget)
          · cases hstep
        · cases hstep
    | set id =>
        cases hstep
        exact hI
  · intro request hrequest
    exact absurd hrequest List.not_mem_nil

/-- **WHEN `invalidate` KEEPS ITS PROMISE.**  In every run in which no list
arrives that was invalidated while it was on its way, a `load` that began after an
`invalidate` brings a list asked for after it.  Wherever such a list does arrive,
the next `load()` breaks the promise. -/
theorem invalidate_promise (stored : Option Nat) :
    (∀ events, Along CityPage.step NoneSince (CityPage.opened stored) events →
      Throughout CityPage.step Refetched (CityPage.opened stored) events) ∧
    (∀ events page, Run CityPage.step (CityPage.opened stored) events page →
      ∀ n cities, (∃ request, page.requests[n]? = some request ∧ request.outcome = none) →
        ¬ NoneSince page (.respond n (.ok cities)) →
        ∃ page', Run CityPage.step (CityPage.opened stored)
          (events ++ [.respond n (.ok cities), .load false]) page' ∧ ¬ Refetched page') := by
  refine ⟨refetched_along stored, ?_⟩
  intro events page hrun n cities henabled hlate
  -- the late list marks the store as loaded, and the next load is served from it
  obtain ⟨page', hrun', hbroken⟩ := lateList_breaks (requests_after hrun) henabled hlate
  exact ⟨page', hrun.append hrun', hbroken⟩

/-- The page loads, the list is invalidated before it has come, and the feed asks
for it again. -/
def sharedPromise : List CityEvent := [.load false, .invalidate, .load false, .respond 0 (.ok [])]

theorem sharedPromise_stale :
    ∃ page, Run CityPage.step (CityPage.opened none) sharedPromise page ∧ ¬ Refetched page := by
  refine ⟨_, run_iff_exec.mpr rfl, ?_⟩
  intro hkept
  obtain ⟨n, request, hn, hget, -, hafter⟩ := hkept.resolved
    { after := 1, loading := .request 0, source := none }
    (List.mem_cons_of_mem _ List.mem_cons_self) Nat.one_pos [] (some 0) rfl
  cases hn
  cases hget
  exact absurd hafter (by decide)

end Feedcast
