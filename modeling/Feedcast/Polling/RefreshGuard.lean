/-
  Feedcast.Polling.RefreshGuard — forced refreshes of one city, one at a time.

  `refresh_city` and `load_city_targets` (`services/scheduler.py`) as the event
  loop runs them, from await to await.  What an await comes back with is the
  environment's: a reply, an exception of the database or of the fetch phase, or
  a cancellation, at any await of any call.

    • `refreshCity_alone` — answered from a database nobody else writes, the
      coroutine comes to what `Feedcast.refreshCity` computes,
    • `call_refused_iff` — a call is refused exactly if its city has a refresh
      in progress,
    • `refreshing_guarded` — over every interleaving of calls, `_refreshing` is
      the set of cities with a refresh in progress.
-/
import Feedcast.Lib.Coroutine
import Feedcast.Lib.Dict
import Feedcast.Services.Scheduler

namespace Feedcast.Refresh

open Feedcast.Lib

/-! ## §1. The coroutines. -/

/-- What a refresh awaits. -/
inductive Request
  | openSession
  | closeSession
  | getCity (cityId : Nat)
  /-- The live sources of a city. -/
  | liveSources (cityId : Nat)
  | fetchTargets (targets : List FetchTarget)
  | persistAttempts (attempts : List FetchAttempt)
  | sourcesIn (ids : List Nat)

/-- What it is answered. -/
def Reply : Request → Type
  | .openSession => Unit
  | .closeSession => Unit
  | .getCity _ => Option City
  | .liveSources _ => List Source
  | .fetchTargets _ => List FetchAttempt
  | .persistAttempts _ => List SourceIngestOutcome
  | .sourcesIn _ => List Source

/-- What it can end with instead of a result. -/
inductive Exc
  | cityNotFound (cityId : Nat)
  | refreshInProgress (cityId : Nat)
  | cancelled
  | other (text : Str)
  deriving Repr, DecidableEq

/-- A coroutine over `_refreshing`. -/
abbrev Task (α : Type) := Coroutine (Finset Nat) Request Reply Exc α

def await (request : Request) : Task (Reply request) := Coroutine.call request

/-- `async with session_factory() as db: body`. -/
def withSession {α : Type} (body : Task α) : Task α := do
  await .openSession
  Coroutine.tryFinally (await .closeSession) body

def loadCityTargets (cityId : Nat) : Task (List FetchTarget) := do
  match ← await (.getCity cityId) with
  | none => .raise (.cityNotFound cityId)
  | some _ =>
      let sources : List Source ← await (.liveSources cityId)
      return sources.map (·.target)

/-- `{source.id: source.name for source in sources}`. -/
def sourceNames (sources : List Source) : List (Nat × Str) :=
  Dict.ofPairs (sources.map fun source => (source.id, source.name))

/-- An outcome under the name of its source. -/
def refreshedSource (names : List (Nat × Str)) (outcome : SourceIngestOutcome) :
    RefreshedSource where
  sourceId := outcome.sourceId
  name := (Dict.get names outcome.sourceId).getD "unknown source".toList
  ok := outcome.ok
  newArticles := outcome.newArticles
  notModified := outcome.notModified
  error := outcome.error

/-- Persist what came back, and read the names of the sources it came from. -/
def persistAndName (attempts : List FetchAttempt) :
    Task (List SourceIngestOutcome × List (Nat × Str)) := do
  let outcomes : List SourceIngestOutcome ← await (.persistAttempts attempts)
  let sources : List Source ← await (.sourcesIn (outcomes.map (·.sourceId)))
  return (outcomes, sourceNames sources)

/-- What stands between the `try` and the `finally` of `refresh_city`. -/
def refreshBody (cityId : Nat) : Task (List RefreshedSource) := do
  let targets ← withSession (loadCityTargets cityId)
  if targets = [] then return []
  else
    let attempts : List FetchAttempt ← await (.fetchTargets targets)
    let (outcomes, names) ← withSession (persistAndName attempts)
    return outcomes.map (refreshedSource names)

def refreshCity (cityId : Nat) : Task (List RefreshedSource) := do
  if cityId ∈ (← Coroutine.get) then .raise (.refreshInProgress cityId)
  else
    Coroutine.modify fun refreshing => insert cityId refreshing
    Coroutine.tryFinally (Coroutine.modify fun refreshing => refreshing.erase cityId)
      (refreshBody cityId)

/-! ## §2. Alone. -/

/-- A fetch phase and a database nobody else writes, as they answer the refresh
of one city; `db'` is the database as the persist phase leaves it. -/
def answers (P : Platform) (cityId : Nat) (fetch : FetchTarget → Time × Except Str FetchResult)
    (weather : FetchTarget → Weather) (db : Db) (request : Request) :
    Except Exc (Reply request) :=
  let targets := (Feedcast.loadCityTargets db cityId).getD []
  let (outcomes, db') := fetchAndPersist P fetch weather targets db
  match request with
  | .openSession => .ok ()
  | .closeSession => .ok ()
  | .getCity cityId => .ok (db.getCity cityId)
  | .liveSources cityId =>
      .ok (db.sources.filter fun source => source.cityId = cityId && source.polled)
  | .fetchTargets targets =>
      .ok (targets.map fun target => target.attempt (fetch target).1 (fetch target).2)
  | .persistAttempts _ => .ok outcomes
  | .sourcesIn ids => .ok (db'.sources.filter fun source => source.id ∈ ids)

/-- The name an outcome gets from the second query is the one its source has. -/
theorem refreshedSource_eq {db : Db} (hdb : (db.sources.map Source.id).Nodup)
    {outcomes : List SourceIngestOutcome} {outcome : SourceIngestOutcome} (h : outcome ∈ outcomes) :
    refreshedSource (sourceNames (db.sources.filter fun source =>
        source.id ∈ outcomes.map (·.sourceId))) outcome = outcome.refreshed db := by
  -- the dict has one name for each id, as the table has
  have hkeys : ((db.sources.filter fun source => source.id ∈ outcomes.map (·.sourceId)).map
      fun source => (source.id, source.name)).map (·.1) |>.Nodup := by
    rw [List.map_map]
    exact hdb.sublist (List.filter_sublist.map _)
  have hname : Dict.get (sourceNames (db.sources.filter fun source =>
      source.id ∈ outcomes.map (·.sourceId))) outcome.sourceId
        = (db.getSource outcome.sourceId).map (·.name) := by
    refine Option.ext fun name => ?_
    rw [sourceNames, Dict.get_ofPairs_of_nodup hkeys, Option.map_eq_some_iff, List.mem_map]
    constructor
    · intro hpair
      obtain ⟨source, hsource, hpair⟩ := hpair
      obtain ⟨hid, hname⟩ := Prod.mk.inj hpair
      refine ⟨source, ?_, hname⟩
      rw [← hid]
      exact getRow_of_mem Source.id hdb (List.mem_of_mem_filter hsource)
    · intro hget
      obtain ⟨source, hget, hname⟩ := hget
      obtain ⟨hmem, hid⟩ := getRow_some Source.id hget
      refine ⟨source, List.mem_filter.mpr ⟨hmem, ?_⟩, Prod.ext hid hname⟩
      rw [hid]
      simpa using ⟨outcome, h, rfl⟩
  unfold refreshedSource SourceIngestOutcome.refreshed
  rw [hname]

section Alone

variable {P : Platform} {cityId : Nat} {fetch : FetchTarget → Time × Except Str FetchResult}
  {weather : FetchTarget → Weather} {db : Db} {held : Finset Nat}

theorem withSession_answered {α : Type} {body : Task α} {result : Except Exc α}
    (h : body.answered (answers P cityId fetch weather db) held = (held, result)) :
    (withSession body).answered (answers P cityId fetch weather db) held = (held, result) := by
  refine (Coroutine.answered_bind _ (await .openSession) _ held).trans ?_
  rw [await, Coroutine.answered_call]
  exact Coroutine.answered_tryFinally _ h (Coroutine.answered_call _ Request.closeSession held)

theorem loadCityTargets_answered :
    (loadCityTargets cityId).answered (answers P cityId fetch weather db) held
      = (held, match Feedcast.loadCityTargets db cityId with
          | none => .error (.cityNotFound cityId)
          | some targets => .ok targets) := by
  refine (Coroutine.answered_bind _ (await (.getCity cityId)) _ held).trans ?_
  have hcity : answers P cityId fetch weather db (.getCity cityId) = .ok (db.getCity cityId) := rfl
  rw [await, Coroutine.answered_call, hcity]
  unfold Feedcast.loadCityTargets
  cases db.getCity cityId with
  | none => rfl
  | some city => rfl

theorem persistAndName_answered {targets : List FetchTarget}
    (hload : Feedcast.loadCityTargets db cityId = some targets) (attempts : List FetchAttempt) :
    (persistAndName attempts).answered (answers P cityId fetch weather db) held
      = (held, .ok ((fetchAndPersist P fetch weather targets db).1,
          sourceNames ((fetchAndPersist P fetch weather targets db).2.sources.filter fun source =>
            source.id ∈ (fetchAndPersist P fetch weather targets db).1.map (·.sourceId)))) := by
  -- each await is answered as the store would answer it
  have hpersist : answers P cityId fetch weather db (.persistAttempts attempts)
      = .ok (fetchAndPersist P fetch weather targets db).1 := by
    simp only [answers, hload, Option.getD_some]
  have hnames (ids : List Nat) : answers P cityId fetch weather db (.sourcesIn ids)
      = .ok ((fetchAndPersist P fetch weather targets db).2.sources.filter
          fun source => source.id ∈ ids) := by
    simp only [answers, hload, Option.getD_some]
  refine (Coroutine.answered_bind _ (await (.persistAttempts attempts)) _ held).trans ?_
  rw [await, Coroutine.answered_call, hpersist]
  refine (Coroutine.answered_bind _ (await (.sourcesIn _)) _ held).trans ?_
  rw [await, Coroutine.answered_call, hnames]
  rfl

theorem refreshBody_answered
    (hdb : ∀ result db', Feedcast.refreshCity P cityId fetch weather db = some (result, db') →
      (db'.sources.map Source.id).Nodup) :
    (refreshBody cityId).answered (answers P cityId fetch weather db) held
      = (held, match Feedcast.refreshCity P cityId fetch weather db with
          | none => .error (.cityNotFound cityId)
          | some (result, _) => .ok result) := by
  refine (Coroutine.answered_bind _ (withSession (loadCityTargets cityId)) _ held).trans ?_
  rw [withSession_answered loadCityTargets_answered]
  unfold Feedcast.refreshCity at hdb ⊢
  cases hload : Feedcast.loadCityTargets db cityId with
  | none => rfl
  | some targets =>
      rw [hload] at hdb
      replace hdb := hdb _ _ rfl
      -- a city without sources returns before the fetch phase
      by_cases htargets : targets = []
      · simp only [htargets, if_true]
        rfl
      · simp only [if_neg htargets]
        refine (Coroutine.answered_bind _ (await (.fetchTargets targets)) _ held).trans ?_
        rw [await, Coroutine.answered_call]
        refine (Coroutine.answered_bind _ (withSession (persistAndName _)) _ held).trans ?_
        rw [withSession_answered (persistAndName_answered hload _)]
        refine congrArg (fun result => (held, Except.ok result)) (List.map_congr_left ?_)
        intro outcome houtcome
        exact refreshedSource_eq hdb houtcome

end Alone

/-- **ALONE, THE COROUTINE COMPUTES `refresh_city`**: it raises for an unknown
city, returns the refreshed sources otherwise, and gives its guard back. -/
theorem refreshCity_alone (P : Platform) {cityId : Nat}
    (fetch : FetchTarget → Time × Except Str FetchResult) (weather : FetchTarget → Weather)
    (db : Db) {refreshing : Finset Nat} (hfree : cityId ∉ refreshing)
    (hdb : ∀ result db', Feedcast.refreshCity P cityId fetch weather db = some (result, db') →
      (db'.sources.map Source.id).Nodup) :
    (refreshCity cityId).answered (answers P cityId fetch weather db) refreshing
      = (refreshing, match Feedcast.refreshCity P cityId fetch weather db with
          | none => .error (.cityNotFound cityId)
          | some (result, _) => .ok result) := by
  have hguard : refreshCity cityId
      = guarded cityId (.refreshInProgress cityId) (refreshBody cityId) := rfl
  rw [hguard, answered_guarded _ hfree (refreshBody_answered hdb), Finset.erase_insert hfree]

/-! ## §3. On the event loop. -/

/-- `_refreshing`, and every call of `refresh_city` so far. -/
abbrev Loop := EventLoop Nat (Finset Nat) Request Reply Exc (List RefreshedSource)

abbrev Action := LoopAction Nat Request Reply Exc

def start : Loop where
  shared := ∅

/-- A request calls `refresh_city`, or an await of a call under way comes back,
with a reply, an exception or a cancellation. -/
def step : Loop → Action → Option Loop := EventLoop.step refreshCity

/-- The `i`-th call is a refresh of this city, begun and not over. -/
def InProgress (loop : Loop) (i cityId : Nat) : Prop :=
  ∃ c, loop.calls[i]? = some (cityId, c) ∧ c.Suspended

/-- The `i`-th call asked for this city and was turned away. -/
def Refused (loop : Loop) (i cityId : Nat) : Prop :=
  loop.calls[i]? = some (cityId, .raise (.refreshInProgress cityId))

theorem refreshBody_quiet (cityId : Nat) : (refreshBody cityId).Quiet := by
  -- inside the body nothing reads or writes `_refreshing`
  have hsession {α : Type} {body : Task α} (h : body.Quiet) : (withSession body).Quiet :=
    (Coroutine.quiet_call Request.openSession).bind fun _ =>
      h.tryFinally (Coroutine.quiet_call Request.closeSession)
  have hload : (loadCityTargets cityId).Quiet := by
    refine (Coroutine.quiet_call (Request.getCity cityId)).bind ?_
    intro city
    cases city with
    | none => exact trivial
    | some city =>
        exact (Coroutine.quiet_call (Request.liveSources cityId)).bind fun _ => trivial
  have hpersist (attempts : List FetchAttempt) : (persistAndName attempts).Quiet :=
    (Coroutine.quiet_call (Request.persistAttempts attempts)).bind fun _ =>
      (Coroutine.quiet_call (Request.sourcesIn _)).bind fun _ => trivial
  refine (hsession hload).bind ?_
  intro targets
  show Coroutine.Quiet (if targets = [] then _ else _)
  split
  · exact trivial
  · refine (Coroutine.quiet_call (Request.fetchTargets targets)).bind ?_
    intro attempts
    exact (hsession (hpersist attempts)).bind fun _ => trivial

/-- `refresh_city` is a guarded section. -/
theorem refreshCity_guarded :
    refreshCity = fun cityId => guarded cityId (.refreshInProgress cityId) (refreshBody cityId) :=
  rfl

theorem guards_of_refreshes {actions : List Action} {loop : Loop}
    (h : Run step start actions loop) : Guards loop := by
  unfold step at h
  rw [refreshCity_guarded] at h
  exact guards_of_run refreshBody_quiet h

section Step

variable {loop loop' : Loop} {i j cityId : Nat}

theorem mem_refreshing (hG : Guards loop) :
    cityId ∈ loop.shared ↔ ∃ i, InProgress loop i cityId := by
  rw [hG.mem_shared]
  constructor
  · intro h
    obtain ⟨c, hmem, hc⟩ := h
    obtain ⟨i, hi⟩ := List.mem_iff_getElem?.mp hmem
    exact ⟨i, c, hi, hc⟩
  · intro h
    obtain ⟨i, c, hi, hc⟩ := h
    exact ⟨c, List.mem_of_getElem? hi, hc⟩

theorem inProgress_alone (hG : Guards loop) (hi : InProgress loop i cityId)
    (hj : InProgress loop j cityId) : i = j := by
  obtain ⟨c, hi, hc⟩ := hi
  obtain ⟨d, hj, hd⟩ := hj
  exact index_of_underway hG.alone hi hc hj hd

/-- **A CALL IS REFUSED EXACTLY IF ITS CITY IS BEING REFRESHED**, and then the
guard stays as it was; no other call of the loop changes. -/
theorem call_refused_iff (loop : Loop) (cityId : Nat) :
    ∃ loop', step loop (.call cityId) = some loop' ∧
      (∀ i < loop.calls.length, loop'.calls[i]? = loop.calls[i]?) ∧
      (if cityId ∈ loop.shared then
        Refused loop' loop.calls.length cityId ∧ loop'.shared = loop.shared
      else
        InProgress loop' loop.calls.length cityId ∧ loop'.shared = insert cityId loop.shared) := by
  have hcall : step loop (.call cityId)
      = some { shared := ((refreshCity cityId).advance loop.shared).1,
               calls := loop.calls ++ [(cityId, ((refreshCity cityId).advance loop.shared).2)] } :=
    rfl
  have hadv := advance_guarded cityId (.refreshInProgress cityId) (refreshBody cityId) loop.shared
  refine ⟨_, hcall, ?_, ?_⟩
  · intro i hi
    exact List.getElem?_append_left hi
  · by_cases hkey : cityId ∈ loop.shared
    · rw [if_pos hkey] at hadv ⊢
      rw [refreshCity_guarded, hadv]
      exact ⟨List.getElem?_concat_length, rfl⟩
    · rw [if_neg hkey] at hadv ⊢
      rw [refreshCity_guarded, hadv]
      -- the first await of the body is the one that opens the session
      exact ⟨⟨_, List.getElem?_concat_length, trivial⟩, rfl⟩

/-- **A CALL THAT ENDS GIVES BACK ITS OWN CITY**, however it ends. -/
theorem resume_gives_back (hG : Guards loop) {reply : (q : Request) → Except Exc (Reply q)}
    (h : step loop (.resume i reply) = some loop') :
    ∃ cityId, InProgress loop i cityId ∧
      ((InProgress loop' i cityId ∧ loop'.shared = loop.shared) ∨
        ((∀ cityId, ¬ InProgress loop' i cityId) ∧
          loop'.shared = loop.shared.erase cityId)) := by
  obtain ⟨pre, cityId, c, post, c', hcalls, hlen, hc, hcalls', hway⟩ := hG.resume_cases h
  have hbefore : loop.calls[i]? = some (cityId, c) := by
    simp [hcalls, ← hlen]
  have hafter : loop'.calls[i]? = some (cityId, c') := by
    simp [hcalls', ← hlen]
  refine ⟨cityId, ⟨c, hbefore, hc⟩, ?_⟩
  -- the call goes on holding its city, or ends and gives it back
  rcases hway with hgoesOn | hends
  · obtain ⟨hc', -, hshared⟩ := hgoesOn
    exact Or.inl ⟨⟨c', hafter, hc'⟩, hshared⟩
  · obtain ⟨hc', hshared⟩ := hends
    refine Or.inr ⟨?_, hshared⟩
    intro other hother
    obtain ⟨d, hd, hsus⟩ := hother
    rw [hafter] at hd
    cases hd
    exact hc' hsus

end Step

/-! ## §4. Every interleaving. -/

/-- **ONE REFRESH PER CITY, AND NO GUARD LEFT BEHIND.**  However the calls
interleave and whatever their awaits come back with, `_refreshing` is the set of
cities with a refresh in progress, and each has one.  From there a new call is
refused if and only if its own city is being refreshed, which changes no guard;
and an await that comes back either leaves the guards alone or ends its call and
takes away the guard of that city. -/
theorem refreshing_guarded {actions : List Action} {loop : Loop}
    (h : Run step start actions loop) :
    (∀ cityId, cityId ∈ loop.shared ↔ ∃ i, InProgress loop i cityId) ∧
    (∀ cityId i j, InProgress loop i cityId → InProgress loop j cityId → i = j) ∧
    (∀ cityId, ∃ loop', step loop (.call cityId) = some loop' ∧
      ((∃ i, InProgress loop i cityId) →
        Refused loop' loop.calls.length cityId ∧ loop'.shared = loop.shared) ∧
      ((¬ ∃ i, InProgress loop i cityId) →
        InProgress loop' loop.calls.length cityId ∧
          loop'.shared = insert cityId loop.shared)) ∧
    (∀ i reply loop', step loop (.resume i reply) = some loop' →
      ∃ cityId, InProgress loop i cityId ∧
        ((InProgress loop' i cityId ∧ loop'.shared = loop.shared) ∨
          ((∀ cityId, ¬ InProgress loop' i cityId) ∧
            loop'.shared = loop.shared.erase cityId))) := by
  -- the guard discipline holds of every interleaving; the four parts are read off it
  have hG := guards_of_refreshes h
  refine ⟨fun cityId => mem_refreshing hG, fun cityId i j => inProgress_alone hG, ?_, ?_⟩
  · intro cityId
    obtain ⟨loop', hcall, -, hway⟩ := call_refused_iff loop cityId
    refine ⟨loop', hcall, ?_, ?_⟩
    · intro hbusy
      rwa [if_pos ((mem_refreshing hG).mpr hbusy)] at hway
    · intro hfree
      rwa [if_neg fun hmem => hfree ((mem_refreshing hG).mp hmem)] at hway
  · intro i reply loop' hresume
    exact resume_gives_back hG hresume

/-- Two cities begin, one of them is asked for again, and the other is cancelled
at its first await. -/
def overlappingCalls : List Action :=
  [.call 1, .call 2, .call 1, .resume 1 fun _ => .error .cancelled]

theorem refreshing_guarded_overlapping :
    ∃ loop, Run step start overlappingCalls loop ∧ Refused loop 2 1 ∧ loop.shared = {1} ∧
      (1 ∈ loop.shared ↔ ∃ i, InProgress loop i 1) := by
  have hrun : Run step start overlappingCalls _ := run_iff_exec.mpr rfl
  refine ⟨_, hrun, rfl, ?_, ((refreshing_guarded hrun).1 1)⟩
  decide

end Feedcast.Refresh
